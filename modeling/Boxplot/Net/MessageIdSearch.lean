import Boxplot.Lib.State
import Boxplot.Net.ImapFraming
import Boxplot.Net.MessageIdHeader
import Mathlib.Data.Bool.AllAny
/-!
# Searching for a message id

The commands of `find_message_id` on the wire and how their responses are read,
and what `find_message_id` answers to a server that lists candidates and shows
their headers.
-/

namespace Boxplot.Net.ImapText

open Lib

/-! ## Responses -/

def searchMarker : List UInt8 := bytes "* SEARCH"

/-- Whether a text begins so. -/
def startsWithBytes (start text : List UInt8) : Bool := (stripPrefix start text).isSome

def parseUid (word : List UInt8) : NetResult UInt32 :=
  match parseU32 word with
  | some uid => .ok uid
  | none => .error (.protocol "imap_uid_invalid")

/-- The uids in order, each once. -/
def searchUidsFromResponse (lines : List ResponseLine) : NetResult (List UInt32) :=
  match lines.find? fun line => startsWithBytes searchMarker line.text with
  | none => .error (.protocol "imap_search_missing")
  | some search => do
    let uids ← ((words search.text).drop 2).mapM parseUid
    .ok (uids.insertionSort (· ≤ ·)).dedup

/-- White space or a parenthesis. -/
def isFetchSeparator (b : UInt8) : Bool := b = 32 || b = 9 || b = 10 || b = 12 || b = 13 || b = 40 || b = 41

/-- The number behind the token `UID`. -/
def fetchUid (text : List UInt8) : NetResult UInt32 :=
  match ((text.splitOnP isFetchSeparator).filter (· ≠ [])).dropWhile (· ≠ bytes "UID") with
  | [] => .error (.protocol "imap_uid_missing")
  | [_] => .error (.protocol "imap_uid_invalid")
  | _ :: token :: _ => parseUid token

/-- A fetched message. -/
def isFetched (line : ResponseLine) : Bool :=
  line.literal.isSome && startsWithBytes (bytes "* ") line.text && (after (bytes " FETCH ") line.text).isSome

/-! ## Commands -/

def searchCommand (quoted : List UInt8) : List UInt8 := bytes "UID SEARCH HEADER Message-ID " ++ quoted

def headerCommand (uid : UInt32) : List UInt8 :=
  bytes ("UID FETCH " ++ toString uid.toNat ++ " (UID BODY.PEEK[HEADER.FIELDS (MESSAGE-ID)])")

section
variable {S : Type}

/-- A step that does not use the connection. -/
def settle {α : Type} : NetResult α → EStateM NativeMailErrorDto S α
  | .ok a => pure a
  | .error e => throw e

/-- `command`: the lines a server answers with. -/
abbrev ImapCommands (S : Type) := List UInt8 → EStateM NativeMailErrorDto S (List ResponseLine)

variable (command : ImapCommands S)

def select (mailbox : String) : EStateM NativeMailErrorDto S UInt32 := do
  let quoted ← settle (quote mailbox)
  let lines ← command (selectCommand quoted)
  match lines.findSome? (uidValidityOf ·.text) with
  | some uidValidity => pure uidValidity
  | none => throw (.protocol "imap_uidvalidity_missing")

def searchMessageIdCandidates (messageId : String) : EStateM NativeMailErrorDto S (List UInt32) := do
  let quoted ← settle (quote messageId)
  let lines ← command (searchCommand quoted)
  settle (searchUidsFromResponse lines)

def fetchExactMessageId (uid : UInt32) : EStateM NativeMailErrorDto S (Option String) := do
  let lines ← command (headerCommand uid)
  match lines.filter isFetched with
  | [] => throw (.stateInvalid "imap_message_absent")
  | [line] => do
    let fetched ← settle (fetchUid line.text)
    if fetched ≠ uid then throw (.stateInvalid "imap_uid_mismatch") else settle (exactMessageIdHeader (line.literal.getD []))
  | _ => throw (.protocol "imap_fetch_duplicate")

/-- The connection over these commands. -/
def connectionOver : ImapConnection S :=
  ⟨select command, searchMessageIdCandidates command, fetchExactMessageId command⟩

end

/-- The commands of the wire. -/
def imapConnection : ImapConnection ImapWire := connectionOver imapCommand

theorem settle_eq {α : Type} (x : NetResult α) : settle x = ofNetResult x := by cases x <;> rfl

theorem imapConnection_select : imapConnection.select = imapSelect := by
  funext mailbox
  change select imapCommand mailbox = _
  unfold select imapSelect
  refine congr (congrArg bind (settle_eq (quote mailbox))) (funext fun quoted => bind_congr fun lines => ?_)
  cases lines.findSome? (uidValidityOf ·.text) <;> rfl

/-! ## Words -/

/-- No white space, and ASCII. -/
def PlainByte (b : UInt8) : Prop := 32 < b ∧ b < 127

theorem dropSpace_plain {b : UInt8} (h : PlainByte b) (rest : List UInt8) : dropSpace (b :: rest) = none := by
  obtain ⟨hlow, hhigh⟩ := h
  unfold dropSpace
  split
  case h_7 =>
    rename_i heq
    cases heq
    refine if_neg fun hspace => ?_
    rw [UInt8.lt_iff_toNat_lt] at hlow
    simp only [UInt8.le_iff_toNat_le, ← UInt8.toNat_inj] at hspace
    have h32 : (32 : UInt8).toNat = 32 := rfl
    have h13 : (13 : UInt8).toNat = 13 := rfl
    omega
  case h_8 => rfl
  -- the other white space begins with a byte past ASCII
  all_goals
    rename_i heq
    obtain rfl := (List.cons.inj heq).1
    exact absurd hhigh (by decide)

theorem wordsFrom_token {token : List UInt8} (h : ∀ b ∈ token, PlainByte b) {fuel : Nat} (hfuel : token.length ≤ fuel)
    (word text : List UInt8) : wordsFrom fuel word (token ++ text) = wordsFrom (fuel - token.length) (word ++ token) text := by
  induction token generalizing fuel word with
  | nil => simp
  | cons b token ih =>
    cases fuel with
    | zero => simp at hfuel
    | succ fuel =>
      have hstep : wordsFrom (fuel + 1) word (b :: (token ++ text)) = wordsFrom fuel (word ++ [b]) (token ++ text) := by
        rw [wordsFrom.eq_def]
        simp only [dropSpace_plain (h b List.mem_cons_self)]
      rw [List.cons_append, hstep, ih (fun c hc => h c (List.mem_cons_of_mem b hc)) (Nat.le_of_succ_le_succ hfuel)]
      simp

/-- Words that are joined by single spaces are the words of the text. -/
theorem words_intercalate {tokens : List (List UInt8)} (hne : ∀ token ∈ tokens, token ≠ [])
    (h : ∀ token ∈ tokens, ∀ b ∈ token, PlainByte b) : words (List.intercalate [32] tokens) = tokens := by
  unfold words
  suffices hall : ∀ fuel, (List.intercalate [32] tokens).length < fuel → wordsFrom fuel [] (List.intercalate [32] tokens) = tokens from
    hall _ (Nat.lt_succ_self _)
  induction tokens with
  | nil =>
    intro fuel hfuel
    cases fuel with
    | zero => cases hfuel
    | succ fuel => rfl
  | cons token rest ih =>
    intro fuel hfuel
    have hplain := h token List.mem_cons_self
    have htoken := hne token List.mem_cons_self
    cases hrest : rest with
    | nil =>
      rw [hrest] at hfuel
      simp only [List.intercalate, List.intersperse_singleton, List.flatten_cons, List.flatten_nil, List.append_nil] at hfuel ⊢
      have hend := wordsFrom_token hplain (Nat.le_of_lt hfuel) [] []
      rw [List.append_nil, List.nil_append] at hend
      rw [hend]
      obtain ⟨k, hk⟩ : ∃ k, fuel - token.length = k + 1 := ⟨fuel - token.length - 1, by omega⟩
      rw [hk]
      exact if_neg htoken
    | cons token' rest' =>
      have hcons : List.intercalate [32] (token :: rest) = token ++ 32 :: List.intercalate [32] rest := by
        rw [hrest]
        simp [List.intercalate]
      rw [← hrest, hcons]
      rw [hcons, List.length_append, List.length_cons] at hfuel
      rw [wordsFrom_token hplain (by omega), List.nil_append]
      obtain ⟨k, hk⟩ : ∃ k, fuel - token.length = k + 1 := ⟨fuel - token.length - 1, by omega⟩
      have hspace : wordsFrom (k + 1) token (32 :: List.intercalate [32] rest) =
          token :: wordsFrom k [] (List.intercalate [32] rest) := if_neg htoken
      rw [hk, hspace, ih (fun t ht => hne t (List.mem_cons_of_mem token ht)) (fun t ht => h t (List.mem_cons_of_mem token ht)) k
        (by omega)]

/-! ## Numbers -/

theorem decimal_map {l : List Char} (h : ∀ c ∈ l, c.toNat ≤ 57) : decimal (l.map asciiByte) = Nat.ofDigitChars 10 l 0 := by
  rw [decimal, Nat.ofDigitChars_eq_foldl, List.foldl_map]
  generalize 0 = sum
  induction l generalizing sum with
  | nil => rfl
  | cons c rest ih =>
    have hc := h c List.mem_cons_self
    rw [List.foldl_cons, List.foldl_cons, asciiByte_toNat (by omega), ih fun d hd => h d (List.mem_cons_of_mem c hd)]
    rfl

theorem isDigitByte_asciiByte {c : Char} (h : 48 ≤ c.toNat ∧ c.toNat ≤ 57) : isDigitByte (asciiByte c) = true := by
  have hbyte := asciiByte_toNat (c := c) (by omega)
  rw [isDigitByte, Bool.and_eq_true_iff, decide_eq_true_iff, decide_eq_true_iff, UInt8.le_iff_toNat_le, UInt8.le_iff_toNat_le, hbyte]
  exact h

theorem bytes_toString (n : Nat) : bytes (toString n) = (Nat.toDigits 10 n).map asciiByte ∧
    ∀ c ∈ Nat.toDigits 10 n, 48 ≤ c.toNat ∧ c.toNat ≤ 57 := by
  have hdigits : ∀ c ∈ Nat.toDigits 10 n, 48 ≤ c.toNat ∧ c.toNat ≤ 57 := by
    intro c hc
    have hdigit := Nat.isDigit_of_mem_toDigits (by omega) (by omega) hc
    simpa [Char.isDigit, UInt32.le_iff_toNat_le] using hdigit
  refine ⟨?_, hdigits⟩
  rw [bytes_ascii, Nat.toString_eq_repr, Nat.toList_repr]
  rw [Nat.toString_eq_repr, Nat.toList_repr]
  intro c hc
  have := hdigits c hc
  omega

theorem toString_digits {n : Nat} {b : UInt8} (hb : b ∈ bytes (toString n)) : isDigitByte b = true := by
  obtain ⟨htext, hdigits⟩ := bytes_toString n
  rw [htext] at hb
  obtain ⟨c, hc, rfl⟩ := List.mem_map.1 hb
  exact isDigitByte_asciiByte (hdigits c hc)

theorem toString_ne_nil (n : Nat) : bytes (toString n) ≠ [] := by
  rw [(bytes_toString n).1, Ne, List.map_eq_nil_iff]
  exact Nat.toDigits_ne_nil

theorem decimal_toString (n : Nat) : decimal (bytes (toString n)) = n := by
  obtain ⟨htext, hdigits⟩ := bytes_toString n
  rw [htext, decimal_map fun c hc => (hdigits c hc).2, Nat.ofDigitChars_ten_toDigits]

/-- A number's digits. -/
def decimalText (n : UInt32) : List UInt8 := bytes (toString n.toNat)

theorem decimalText_digits {n : UInt32} {b : UInt8} (hb : b ∈ decimalText n) : isDigitByte b = true := toString_digits hb

theorem decimalText_ne_nil (n : UInt32) : decimalText n ≠ [] := toString_ne_nil n.toNat

theorem parseU32_decimalText (n : UInt32) : parseU32 (decimalText n) = some n := by
  have hall : (decimalText n).all isDigitByte = true := List.all_eq_true.2 fun b => decimalText_digits
  have hsum : decimal (decimalText n) = n.toNat := decimal_toString n.toNat
  have hne : (decimalText n).isEmpty = false := List.isEmpty_eq_false_iff.2 (decimalText_ne_nil n)
  have hplus : ∀ rest, decimalText n ≠ 43 :: rest := by
    intro rest heq
    rw [heq] at hall
    exact absurd hall (by simp [isDigitByte])
  have hsmall : ¬2 ^ 32 ≤ n.toNat := Nat.not_le.2 n.toNat_lt
  unfold parseU32
  split
  · exact absurd ‹_› (hplus _)
  · simp only [hne, hall, hsum, hsmall, Bool.not_true, Bool.false_or, decide_false, Bool.false_eq_true, if_false]
    rw [UInt32.ofNat_toNat]

/-- A digit is neither white space nor a parenthesis. -/
theorem digit_plain {b : UInt8} (h : isDigitByte b = true) : PlainByte b ∧ isFetchSeparator b = false := by
  have hdigit : 48 ≤ b.toNat ∧ b.toNat ≤ 57 := by simpa [isDigitByte, UInt8.le_iff_toNat_le] using h
  constructor
  · simp only [PlainByte, UInt8.lt_iff_toNat_lt, UInt8.reduceToNat]
    omega
  · simp only [isFetchSeparator, Bool.or_eq_false_iff, decide_eq_false_iff_not, ← UInt8.toNat_inj, UInt8.reduceToNat]
    omega

/-! ## Markers -/

theorem after_isSome (marker before rest : List UInt8) : (after marker (before ++ marker ++ rest)).isSome = true := by
  induction before with
  | nil =>
    rw [List.nil_append, after.eq_def, stripPrefix_append]
    rfl
  | cons b before ih =>
    rw [List.cons_append, List.cons_append, after.eq_def]
    split
    · rfl
    · exact ih

/-- Nothing before the marker begins it. -/
theorem after_append {m : UInt8} {before : List UInt8} (h : m ∉ before) (marker rest : List UInt8) :
    after (m :: marker) (before ++ (m :: marker) ++ rest) = some rest := by
  induction before with
  | nil => rw [List.nil_append, after.eq_def, stripPrefix_append]
  | cons b before ih =>
    have hb : stripPrefix (m :: marker) (b :: (before ++ (m :: marker) ++ rest)) = none := by
      refine if_neg ?_
      rw [List.isPrefixOf_cons_cons, Bool.and_eq_true_iff, beq_iff_eq]
      exact fun heq => h (heq.1 ▸ List.mem_cons_self)
    rw [List.cons_append, List.cons_append, after.eq_def, hb]
    exact ih fun hmem => h (List.mem_cons_of_mem b hmem)

/-! ## A server that is asked -/

/-- The line that lists candidates. -/
def searchText (candidates : List UInt32) : List UInt8 :=
  List.intercalate [32] (bytes "*" :: bytes "SEARCH" :: candidates.map decimalText)

/-- A server with a mailbox selected. It answers a search with the candidates, and the fetch of each with its header block. -/
structure Serves {S : Type} (command : ImapCommands S) (uidValidity : UInt32) (candidates : List UInt32)
    (block : UInt32 → List UInt8) : Prop where
  select : ∀ quoted s, ∃ lines s', command (selectCommand quoted) s = .ok lines s' ∧
    lines.findSome? (uidValidityOf ·.text) = some uidValidity
  search : ∀ quoted s, ∃ lines line s', command (searchCommand quoted) s = .ok lines s' ∧
    lines.find? (fun line => startsWithBytes searchMarker line.text) = some line ∧ line.text = searchText candidates
  fetch : ∀ uid ∈ candidates, ∀ s, ∃ lines text s', command (headerCommand uid) s = .ok lines s' ∧
    lines.filter isFetched = [⟨text, some (block uid)⟩] ∧ fetchUid text = .ok uid

/-- The line that announces a message's header. -/
def fetchText (uid : UInt32) (header : List UInt8) : List UInt8 :=
  bytes "* 1 FETCH (UID " ++ decimalText uid ++ 32 :: bytes ("BODY[HEADER.FIELDS (MESSAGE-ID)] \x7b" ++ toString header.length ++ "\x7d")

/-- Such a server. -/
def serving {S : Type} (uidValidity : UInt32) (candidates : List UInt32) (block : UInt32 → List UInt8) : ImapCommands S := fun sent s =>
  match candidates.find? (headerCommand · = sent) with
  | some uid => .ok [⟨fetchText uid (block uid), some (block uid)⟩] s
  | none => .ok [⟨bytes "* OK [UIDVALIDITY " ++ decimalText uidValidity ++ bytes "]", none⟩, ⟨searchText candidates, none⟩] s

theorem words_searchText (candidates : List UInt32) :
    words (searchText candidates) = bytes "*" :: bytes "SEARCH" :: candidates.map decimalText := by
  refine words_intercalate ?_ ?_
  · simp only [List.forall_mem_cons]
    refine ⟨by decide_cbv, by decide_cbv, fun token htoken => ?_⟩
    obtain ⟨n, -, rfl⟩ := List.mem_map.1 htoken
    exact decimalText_ne_nil n
  · have hmarker : ∀ token ∈ [bytes "*", bytes "SEARCH"], ∀ b ∈ token, 32 < b ∧ b < 127 := by decide +kernel
    simp only [List.forall_mem_cons] at hmarker ⊢
    refine ⟨hmarker.1, hmarker.2.1, fun token htoken => ?_⟩
    obtain ⟨n, -, rfl⟩ := List.mem_map.1 htoken
    exact fun b hb => (digit_plain (decimalText_digits hb)).1

theorem mapM_parseUid (uids : List UInt32) : (uids.map decimalText).mapM parseUid = .ok uids := by
  rw [mapM_eq_ok, List.forall₂_map_left_iff, List.forall₂_same]
  intro n _
  rw [parseUid, parseU32_decimalText]

/-- A search line is read as the candidates it lists. -/
theorem searchUids_searchText {lines : List ResponseLine} {line : ResponseLine} {candidates : List UInt32}
    (hline : lines.find? (fun line => startsWithBytes searchMarker line.text) = some line) (htext : line.text = searchText candidates) :
    searchUidsFromResponse lines = .ok (candidates.insertionSort (· ≤ ·)).dedup := by
  rw [searchUidsFromResponse, hline]
  simp only [htext, words_searchText, List.drop_succ_cons, List.drop_zero, mapM_parseUid]
  rfl

theorem fetchUid_fetchText (uid : UInt32) (header : List UInt8) : fetchUid (fetchText uid header) = .ok uid := by
  have hdigits : ∀ b ∈ decimalText uid, isFetchSeparator b = false := fun b hb => (digit_plain (decimalText_digits hb)).2
  have hstart : bytes "* 1 FETCH (UID " = bytes "* 1 FETCH (UID" ++ [32] := by decide_cbv
  have htokens : ((bytes "* 1 FETCH (UID").splitOnP isFetchSeparator).filter (· ≠ []) =
      [bytes "*", bytes "1", bytes "FETCH"] ++ [bytes "UID"] := by decide_cbv
  have hbefore : ∀ token ∈ [bytes "*", bytes "1", bytes "FETCH"], decide (token ≠ bytes "UID") = true := by decide_cbv
  rw [fetchUid, fetchText, hstart, List.append_assoc, List.append_assoc, List.singleton_append,
    List.splitOnP_append_cons _ _ (by decide), List.splitOnP_append_cons_of_forall_mem hdigits 32 (by decide), List.filter_append,
    List.filter_cons, if_pos (by simpa using decimalText_ne_nil uid), htokens, List.append_assoc,
    List.dropWhile_append_of_pos hbefore, List.singleton_append, List.dropWhile_cons_of_neg (by simp)]
  change parseUid (decimalText uid) = .ok uid
  rw [parseUid, parseU32_decimalText]

theorem headerCommand_eq (uid : UInt32) : headerCommand uid =
    bytes "UID FETCH " ++ decimalText uid ++ bytes " (UID BODY.PEEK[HEADER.FIELDS (MESSAGE-ID)])" := by
  rw [headerCommand, bytes_append, bytes_append]
  rfl

theorem words_headerCommand (uid : UInt32) : words (headerCommand uid) =
    [bytes "UID", bytes "FETCH", decimalText uid, bytes "(UID", bytes "BODY.PEEK[HEADER.FIELDS", bytes "(MESSAGE-ID)])"] := by
  have hstart : bytes "UID FETCH " = bytes "UID" ++ [32] ++ bytes "FETCH" ++ [32] := by decide_cbv
  have hend : bytes " (UID BODY.PEEK[HEADER.FIELDS (MESSAGE-ID)])" =
      [32] ++ bytes "(UID" ++ [32] ++ bytes "BODY.PEEK[HEADER.FIELDS" ++ [32] ++ bytes "(MESSAGE-ID)])" := by decide_cbv
  have hcommand : headerCommand uid = List.intercalate [32]
      [bytes "UID", bytes "FETCH", decimalText uid, bytes "(UID", bytes "BODY.PEEK[HEADER.FIELDS", bytes "(MESSAGE-ID)])"] := by
    rw [headerCommand_eq, hstart, hend]
    simp only [List.intercalate, List.intersperse, List.flatten_cons, List.flatten_nil, List.append_assoc, List.append_nil]
  have hplain : ∀ token ∈ [bytes "UID", bytes "FETCH", bytes "(UID", bytes "BODY.PEEK[HEADER.FIELDS", bytes "(MESSAGE-ID)])"],
      token ≠ [] ∧ ∀ b ∈ token, 32 < b ∧ b < 127 := by decide +kernel
  have hall : ∀ token ∈ [bytes "UID", bytes "FETCH", decimalText uid, bytes "(UID", bytes "BODY.PEEK[HEADER.FIELDS",
      bytes "(MESSAGE-ID)])"], token ≠ [] ∧ ∀ b ∈ token, PlainByte b := by
    intro token htoken
    by_cases hdigits : token = decimalText uid
    · rw [hdigits]
      exact ⟨decimalText_ne_nil uid, fun b hb => (digit_plain (decimalText_digits hb)).1⟩
    · refine hplain token ?_
      simpa [hdigits] using htoken
  rw [hcommand, words_intercalate (fun token h => (hall token h).1) fun token h => (hall token h).2]

theorem headerCommand_injective {left right : UInt32} (h : headerCommand left = headerCommand right) : left = right := by
  have hwords := congrArg (fun text => parseU32 ((words text).getD 2 [])) h
  simp only [words_headerCommand] at hwords
  exact Option.some.inj (by rw [← parseU32_decimalText left, ← parseU32_decimalText right]; exact hwords)

/-- Neither a selection nor a search begins like it. -/
theorem headerCommand_ne (uid : UInt32) (quoted : List UInt8) :
    headerCommand uid ≠ selectCommand quoted ∧ headerCommand uid ≠ searchCommand quoted := by
  have hheader : (headerCommand uid).take 5 = bytes "UID F" := by
    rw [headerCommand_eq, List.append_assoc, List.take_append_of_le_length (by decide_cbv)]
    decide_cbv
  have hselect : (selectCommand quoted).take 5 = bytes "SELEC" := by
    rw [selectCommand, List.take_append_of_le_length (by decide_cbv)]
    decide_cbv
  have hsearch : (searchCommand quoted).take 5 = bytes "UID S" := by
    rw [searchCommand, List.take_append_of_le_length (by decide_cbv)]
    decide_cbv
  constructor
  · intro h
    rw [h, hselect] at hheader
    exact absurd hheader (by decide_cbv)
  · intro h
    rw [h, hsearch] at hheader
    exact absurd hheader (by decide_cbv)

theorem uidValidityOf_announced (uidValidity : UInt32) :
    uidValidityOf (bytes "* OK [UIDVALIDITY " ++ decimalText uidValidity ++ bytes "]") = some uidValidity := by
  have hstart : bytes "* OK [UIDVALIDITY " = bytes "* OK " ++ bytes "[UIDVALIDITY " := by decide_cbv
  have hmarker : bytes "[UIDVALIDITY " = 91 :: bytes "UIDVALIDITY " := by decide_cbv
  have hdigits : ∀ b ∈ decimalText uidValidity, decide (b ≠ 93) = true := by
    intro b hb
    refine decide_eq_true ?_
    rintro rfl
    exact absurd (decimalText_digits hb) (by decide)
  rw [uidValidityOf, hstart, hmarker, List.append_assoc, after_append (by decide_cbv), Option.bind_some, upTo,
    List.takeWhile_append_of_pos hdigits]
  have hend : (bytes "]").takeWhile (fun b => decide (b ≠ 93)) = [] := by decide_cbv
  rw [hend, List.append_nil, parseU32_decimalText]

theorem startsWithBytes_iff {start text : List UInt8} : startsWithBytes start text = true ↔ start <+: text := by
  rw [startsWithBytes, stripPrefix, ← List.isPrefixOf_iff_prefix]
  split <;> simp [*]

theorem startsWithBytes_append (start rest : List UInt8) : startsWithBytes start (start ++ rest) = true :=
  startsWithBytes_iff.2 (List.prefix_append _ _)

theorem searchText_append (candidates : List UInt32) : ∃ rest, searchText candidates = searchMarker ++ rest := by
  have hmarker : bytes "*" ++ ([32] ++ bytes "SEARCH") = searchMarker := by decide_cbv
  rw [← hmarker, searchText]
  cases candidates with
  | nil => exact ⟨[], by simp [List.intercalate]⟩
  | cons candidate candidates =>
    refine ⟨[32] ++ List.intercalate [32] ((candidate :: candidates).map decimalText), ?_⟩
    simp only [List.map_cons, List.intercalate, List.intersperse, List.flatten_cons, List.append_assoc]

theorem isFetched_fetchText (uid : UInt32) (header : List UInt8) : isFetched ⟨fetchText uid header, some header⟩ = true := by
  obtain ⟨rest, hrest⟩ : ∃ rest, fetchText uid header = bytes "* 1" ++ bytes " FETCH " ++ rest :=
    ⟨bytes "(UID " ++ decimalText uid ++ 32 :: bytes ("BODY[HEADER.FIELDS (MESSAGE-ID)] \x7b" ++ toString header.length ++ "\x7d"), by
      have hstart : bytes "* 1 FETCH (UID " = bytes "* 1" ++ bytes " FETCH " ++ bytes "(UID " := by decide_cbv
      rw [fetchText, hstart, List.append_assoc (bytes "* 1" ++ bytes " FETCH ") (bytes "(UID ") (decimalText uid), List.append_assoc]⟩
  have hstar : bytes "* 1" = bytes "* " ++ bytes "1" := by decide_cbv
  have hmarker := after_isSome (bytes " FETCH ") (bytes "* 1") rest
  rw [isFetched, hrest]
  simp only [Option.isSome_some, Bool.true_and, hmarker, Bool.and_true]
  rw [hstar, List.append_assoc, List.append_assoc, startsWithBytes_append]

/-- Every list of candidates is served, whatever their headers are. -/
theorem serving_serves {S : Type} (uidValidity : UInt32) (candidates : List UInt32) (block : UInt32 → List UInt8) :
    Serves (serving (S := S) uidValidity candidates block) uidValidity candidates block := by
  have hother {sent : List UInt8} (h : ∀ uid, headerCommand uid ≠ sent) (s : S) : serving uidValidity candidates block sent s =
      .ok [⟨bytes "* OK [UIDVALIDITY " ++ decimalText uidValidity ++ bytes "]", none⟩, ⟨searchText candidates, none⟩] s := by
    rw [serving, List.find?_eq_none.2 fun uid _ => by simpa using h uid]
  refine ⟨fun quoted s => ?_, fun quoted s => ?_, fun uid huid s => ?_⟩
  · refine ⟨_, s, hother (fun uid => (headerCommand_ne uid quoted).1) s, ?_⟩
    rw [List.findSome?_cons, uidValidityOf_announced]
  · refine ⟨_, ⟨searchText candidates, none⟩, s, hother (fun uid => (headerCommand_ne uid quoted).2) s, ?_, rfl⟩
    have hok : ¬startsWithBytes searchMarker (bytes "* OK [UIDVALIDITY " ++ decimalText uidValidity ++ bytes "]") = true := by
      rw [startsWithBytes_iff, List.append_assoc]
      intro h
      have hshort := List.prefix_of_prefix_length_le h (List.prefix_append _ _) (by decide_cbv)
      exact absurd hshort (by decide_cbv)
    obtain ⟨rest, hrest⟩ := searchText_append candidates
    have hsearch : startsWithBytes searchMarker (searchText candidates) = true := by rw [hrest, startsWithBytes_append]
    simp only [List.find?_cons, Bool.eq_false_iff.2 hok, hsearch]
  · have hfind : candidates.find? (fun c => decide (headerCommand c = headerCommand uid)) = some uid := by
      obtain ⟨found, hfound⟩ := Option.isSome_iff_exists.1
        (List.find?_isSome.2 ⟨uid, huid, decide_eq_true rfl⟩ : (candidates.find? (headerCommand · = headerCommand uid)).isSome)
      have hsame : headerCommand found = headerCommand uid := by simpa using List.find?_some hfound
      rw [hfound, headerCommand_injective hsame]
    refine ⟨[⟨fetchText uid (block uid), some (block uid)⟩], fetchText uid (block uid), s, ?_, ?_, fetchUid_fetchText uid (block uid)⟩
    · rw [serving, hfind]
    · rw [List.filter_cons_of_pos (isFetched_fetchText uid (block uid)), List.filter_nil]

/-! ## What is found -/

section
variable {S : Type} {command : ImapCommands S} {uidValidity : UInt32} {candidates : List UInt32} {block : UInt32 → List UInt8}
  {mailbox messageId : String}

theorem settle_ok {α : Type} (a : α) (s : S) : settle (.ok a : NetResult α) s = .ok a s := rfl

theorem settle_eq_ok {α : Type} {x : NetResult α} {a : α} {s s' : S} : settle x s = .ok a s' ↔ x = .ok a ∧ s' = s := by
  cases x with
  | ok b =>
    rw [settle_ok, EStateM.Result.ok.injEq, Except.ok.injEq]
    exact and_congr_right fun _ => eq_comm
  | error e => exact iff_of_false nofun (fun h => nomatch h.1)

theorem select_served (hserves : Serves command uidValidity candidates block) (s : S) :
    ∃ s', select command mailbox s = settle ((quote mailbox).map fun _ => uidValidity) s' := by
  cases hquote : quote mailbox with
  | error e => exact ⟨s, by rw [select, hquote]; rfl⟩
  | ok quoted =>
    obtain ⟨lines, s', hcommand, hvalidity⟩ := hserves.select quoted s
    refine ⟨s', ?_⟩
    rw [select, hquote, bind_ok (settle_ok quoted s), bind_ok hcommand, hvalidity]
    rfl

/-- The candidates, in order and each once. -/
def distinctUids (candidates : List UInt32) : List UInt32 := (candidates.insertionSort (· ≤ ·)).dedup

theorem mem_distinctUids {c : UInt32} : c ∈ distinctUids candidates ↔ c ∈ candidates := by
  rw [distinctUids, List.mem_dedup, List.mem_insertionSort]

theorem length_distinctUids (candidates : List UInt32) : (distinctUids candidates).length = candidates.toFinset.card := by
  rw [List.card_toFinset, distinctUids, ((List.perm_insertionSort (· ≤ ·) candidates).dedup).length_eq]

theorem searchMessageIdCandidates_served (hserves : Serves command uidValidity candidates block) (s : S) :
    ∃ s', searchMessageIdCandidates command messageId s = settle ((quote messageId).map fun _ => distinctUids candidates) s' := by
  cases hquote : quote messageId with
  | error e => exact ⟨s, by rw [searchMessageIdCandidates, hquote]; rfl⟩
  | ok quoted =>
    obtain ⟨lines, line, s', hcommand, hline, htext⟩ := hserves.search quoted s
    refine ⟨s', ?_⟩
    rw [searchMessageIdCandidates, hquote, bind_ok (settle_ok quoted s), bind_ok hcommand, searchUids_searchText hline htext]
    rfl

/-- A candidate's header is what is read of its block. -/
theorem fetchExactMessageId_served (hserves : Serves command uidValidity candidates block) {uid : UInt32} (huid : uid ∈ candidates)
    (s : S) : ∃ s', fetchExactMessageId command uid s = settle (exactMessageIdHeader (block uid)) s' := by
  obtain ⟨lines, text, s', hcommand, hfetched, hfetch⟩ := hserves.fetch uid huid s
  refine ⟨s', ?_⟩
  rw [fetchExactMessageId, bind_ok hcommand, hfetched]
  dsimp only
  rw [hfetch, bind_ok (settle_ok uid s'), if_neg (not_not.2 rfl)]
  rfl

/-- One candidate is left as the exact one where all headers are texts and only its spaced line has the value. -/
theorem exactMatch_found (hserves : Serves command uidValidity candidates block) {uids : List UInt32}
    (huids : ∀ uid ∈ uids, uid ∈ candidates) {found : Option UInt32} {u : UInt32} {s : S} :
    (∃ s', (connectionOver command).exactMatch messageId uids found s = .ok (some (some u)) s') ↔
      (∀ uid ∈ uids, ∃ text, block uid = bytes text) ∧
        found.toList ++ uids.filter (fun uid => spacedIds (block uid) = [bytes messageId]) = [u] := by
  induction uids generalizing found s with
  | nil =>
    rw [ImapConnection.exactMatch]
    cases found with
    | none => exact iff_of_false (by rintro ⟨_, h⟩; cases h) (fun h => by cases h.2)
    | some v => simp [EStateM.pure, pure]
  | cons uid rest ih =>
    have hrest : ∀ c ∈ rest, c ∈ candidates := fun c hc => huids c (List.mem_cons_of_mem uid hc)
    obtain ⟨s', hfetch⟩ := fetchExactMessageId_served hserves (huids uid List.mem_cons_self) s
    have hfetch : (connectionOver command).fetchExactMessageId uid s = settle (exactMessageIdHeader (block uid)) s' := hfetch
    rw [ImapConnection.exactMatch, List.forall_mem_cons]
    cases hheader : exactMessageIdHeader (block uid) with
    | error e =>
      -- a block that is no text ends the search
      rw [hheader] at hfetch
      rw [bind_error hfetch]
      refine iff_of_false (by rintro ⟨_, h⟩; cases h) ?_
      rintro ⟨⟨⟨text, htext⟩, -⟩, -⟩
      obtain ⟨header, hok⟩ := exactMessageIdHeader_text text
      rw [htext, hok] at hheader
      cases hheader
    | ok header =>
      obtain ⟨htext, hspaced⟩ := exactMessageIdHeader_ok hheader
      rw [hheader] at hfetch
      rw [bind_ok hfetch, and_iff_right htext, List.filter_cons]
      by_cases hexact : header = some messageId
      · rw [if_neg (not_not.2 hexact), if_pos (decide_eq_true ((hspaced messageId).1 hexact))]
        cases found with
        | none => exact ih hrest
        | some v => exact iff_of_false (by rintro ⟨_, h⟩; cases h) (fun h => by cases h.2)
      · have hother : ¬spacedIds (block uid) = [bytes messageId] := fun h => hexact ((hspaced messageId).2 h)
        rw [if_pos hexact, if_neg (by simp [hother])]
        exact ih hrest

/-- What may be found: few candidates, all with a text for a header, and `u` the only one whose spaced line has the value. -/
structure Findable (mailbox messageId : String) (candidates : List UInt32) (block : UInt32 → List UInt8) (u : UInt32) : Prop where
  mailboxQuoted : ∃ quoted, quote mailbox = .ok quoted
  idQuoted : ∃ quoted, quote messageId = .ok quoted
  few : candidates.toFinset.card ≤ ImapConnection.maxMessageIdCandidates
  texts : ∀ c ∈ candidates, ∃ text, block c = bytes text
  candidate : u ∈ candidates
  only : ∀ c ∈ candidates, spacedIds (block c) = [bytes messageId] ↔ c = u

theorem filter_eq_singleton {α : Type} [DecidableEq α] {l : List α} (h : l.Nodup) {p : α → Prop} [DecidablePred p] {a : α} :
    l.filter (fun x => p x) = [a] ↔ a ∈ l ∧ ∀ x ∈ l, p x ↔ x = a := by
  constructor
  · intro heq
    have hmem (x : α) : x ∈ l ∧ p x ↔ x = a := by rw [← List.mem_singleton, ← heq, List.mem_filter, decide_eq_true_iff]
    exact ⟨((hmem a).2 rfl).1, fun x hx => ⟨fun hp => (hmem x).1 ⟨hx, hp⟩, fun hxa => ((hmem x).2 hxa).2⟩⟩
  · rintro ⟨ha, hp⟩
    have hfilter : l.filter (fun x => p x) = l.filter (· = a) :=
      List.filter_congr fun x hx => decide_eq_decide.2 (hp x hx)
    rw [hfilter, List.filter_eq, h.count, if_pos ha]
    rfl

/-- The server's answers determine what is found. -/
theorem findMessageId_found (hserves : Serves command uidValidity candidates block) {s : S} {id : NativeFoundEmailIdDto} :
    (∃ s', (connectionOver command).findMessageId mailbox messageId s = .ok (.found id) s') ↔
      ∃ u, Findable mailbox messageId candidates block u ∧ id = ⟨mailbox, uidValidity, u⟩ := by
  obtain ⟨s₁, hselect⟩ : ∃ s', (connectionOver command).select mailbox s = settle ((quote mailbox).map fun _ => uidValidity) s' :=
    select_served hserves s
  rw [ImapConnection.findMessageId]
  cases hmailbox : quote mailbox with
  | error e =>
    rw [hmailbox] at hselect
    rw [bind_error hselect]
    exact iff_of_false nofun fun ⟨u, hu, _⟩ => by simpa [hmailbox] using hu.mailboxQuoted
  | ok quotedMailbox =>
    rw [hmailbox] at hselect
    rw [bind_ok hselect]
    obtain ⟨s₂, hsearch⟩ : ∃ s', (connectionOver command).searchMessageIdCandidates messageId s₁ =
        settle ((quote messageId).map fun _ => distinctUids candidates) s' := searchMessageIdCandidates_served hserves s₁
    cases hid : quote messageId with
    | error e =>
      rw [hid] at hsearch
      rw [bind_error hsearch]
      exact iff_of_false nofun fun ⟨u, hu, _⟩ => by simpa [hid] using hu.idQuoted
    | ok quotedId =>
      rw [hid] at hsearch
      rw [bind_ok hsearch, length_distinctUids]
      split
      · rename_i hmany
        exact iff_of_false (fun ⟨_, h⟩ => by cases h) fun ⟨u, hu, _⟩ => absurd hu.few (Nat.not_le.2 hmany)
      · rename_i hfew
        have hmatch (u : UInt32) : (∃ s', (connectionOver command).exactMatch messageId (distinctUids candidates) none s₂ =
            .ok (some (some u)) s') ↔ Findable mailbox messageId candidates block u := by
          have hnodup : (distinctUids candidates).Nodup := List.nodup_dedup _
          rw [exactMatch_found hserves fun c => mem_distinctUids.1, Option.toList_none, List.nil_append, filter_eq_singleton hnodup]
          simp only [mem_distinctUids]
          exact ⟨fun ⟨htexts, hu, honly⟩ => ⟨⟨_, hmailbox⟩, ⟨_, hid⟩, Nat.not_lt.1 hfew, htexts, hu, honly⟩,
            fun h => ⟨h.texts, h.candidate, h.only⟩⟩
        constructor
        · rintro ⟨s', h⟩
          obtain ⟨result, t, hresult, hanswer⟩ := bind_eq_ok.1 h
          match result with
          | none => cases hanswer
          | some none => cases hanswer
          | some (some u) =>
            cases hanswer
            exact ⟨u, (hmatch u).1 ⟨_, hresult⟩, rfl⟩
        · rintro ⟨u, hu, rfl⟩
          obtain ⟨s', hresult⟩ := (hmatch u).2 hu
          exact ⟨s', bind_ok hresult⟩

/-! ## Evidence -/

/-- What is found from `s` is the only candidate with precisely the message id. -/
def FoundOnly (command : ImapCommands S) (s : S) (mailbox messageId : String) (candidates : List UInt32)
    (block : UInt32 → List UInt8) : Prop :=
  ∀ id s', (connectionOver command).findMessageId mailbox messageId s = .ok (.found id) s' →
    id.uid ∈ candidates ∧ ∀ c ∈ candidates, messageIds (block c) = [bytes messageId] ↔ c = id.uid

/-- The only field has the value, behind no blank or folded. -/
def Overlooked (raw value : List UInt8) : Prop := messageIds raw = [value] ∧ spacedIds raw ≠ [value]

/-- The one candidate whose spaced line has the value has no other field and no folded one, and no candidate is overlooked. -/
def Unmistakable (mailbox messageId : String) (candidates : List UInt32) (block : UInt32 → List UInt8) : Prop :=
  ∀ u, Findable mailbox messageId candidates block u →
    Unaccompanied (block u) ∧ ∀ c ∈ candidates, ¬Overlooked (block c) (bytes messageId)

theorem Findable.messageIds_iff {u : UInt32} (h : Findable mailbox messageId candidates block u) :
    messageIds (block u) = [bytes messageId] ↔ Unaccompanied (block u) :=
  messageIds_spaced ((h.only u h.candidate).2 rfl)

theorem foundOnly_iff (hserves : Serves command uidValidity candidates block) {s : S} :
    FoundOnly command s mailbox messageId candidates block ↔ Unmistakable mailbox messageId candidates block := by
  have hfound (u : UInt32) (hu : Findable mailbox messageId candidates block u) :
      ∃ s', (connectionOver command).findMessageId mailbox messageId s = .ok (.found ⟨mailbox, uidValidity, u⟩) s' :=
    (findMessageId_found hserves).2 ⟨u, hu, rfl⟩
  constructor
  · intro h u hu
    obtain ⟨s', hs'⟩ := hfound u hu
    obtain ⟨-, honly⟩ := h _ s' hs'
    refine ⟨hu.messageIds_iff.1 ((honly u hu.candidate).2 rfl), fun c hc hover => hover.2 ?_⟩
    exact (hu.only c hc).2 ((honly c hc).1 hover.1)
  · intro h id s' hs'
    obtain ⟨u, hu, rfl⟩ := (findMessageId_found hserves).1 ⟨s', hs'⟩
    obtain ⟨hblock, hover⟩ := h u hu
    refine ⟨hu.candidate, fun c hc => ⟨fun hids => ?_, ?_⟩⟩
    · rw [← hu.only c hc]
      exact not_not.1 fun hspaced => hover c hc ⟨hids, hspaced⟩
    · rintro rfl
      exact hu.messageIds_iff.2 hblock

end

/-- What the evidence of a message id says, and when. -/
theorem message_id_evidence (raw : List UInt8) :
    (FoundExactly raw ↔ ((∃ text, raw = bytes text) → Unaccompanied raw)) ∧
    (∀ v, OnlyLine raw (bytes v) → (exactMessageIdHeader raw = .ok (some v) ↔ ∃ text, raw = bytes text)) ∧
    ∀ {S : Type} (command : ImapCommands S) (uidValidity : UInt32) (candidates : List UInt32) (block : UInt32 → List UInt8),
      Serves command uidValidity candidates block → ∀ (s : S) (mailbox messageId : String),
        FoundOnly command s mailbox messageId candidates block ↔ Unmistakable mailbox messageId candidates block :=
  ⟨foundExactly_iff, fun _ => exactMessageIdHeader_onlyLine, fun _ _ _ _ hserves _ _ _ => foundOnly_iff hserves⟩

/-- A copy without the blank is found to be no copy. -/
def copies (uid : UInt32) : List UInt8 :=
  if uid = 4 then bytes "Message-ID: <a@b>\r\n\r\n" else bytes "Message-ID:<a@b>\r\n\r\n"

theorem message_id_evidence_copies : Unmistakable "INBOX" "<a@b>" [4] copies ∧
    FoundOnly (serving 7 [4] copies) () "INBOX" "<a@b>" [4] copies := by
  have h : Unmistakable "INBOX" "<a@b>" [4] copies := by
    intro u hu
    obtain rfl := List.mem_singleton.1 hu.candidate
    refine ⟨by decide_cbv, fun c hc => ?_⟩
    obtain rfl := List.mem_singleton.1 hc
    exact fun hover => hover.2 (by decide_cbv)
  exact ⟨h, ((message_id_evidence []).2.2 (serving 7 [4] copies) 7 [4] copies (serving_serves 7 [4] copies) () "INBOX" "<a@b>").2 h⟩

/-- A second field without the blank goes unseen, and so does a second message. -/
theorem message_id_unseen : ¬FoundExactly (bytes "Message-ID: <a@b>\r\nMessage-ID:<c@d>\r\n\r\n") ∧
    ¬FoundOnly (serving 7 [4, 9] copies) () "INBOX" "<a@b>" [4, 9] copies := by
  constructor
  · rw [foundExactly_iff]
    exact fun h => absurd (h ⟨_, rfl⟩) (by decide_cbv)
  · rw [foundOnly_iff (serving_serves 7 [4, 9] copies)]
    have hfindable : Findable "INBOX" "<a@b>" [4, 9] copies 4 := by
      refine ⟨⟨_, if_neg (by decide)⟩, ⟨_, if_neg (by decide)⟩, by decide, ?_, by decide,
        List.all_iff_forall_prop.1 (by decide_cbv)⟩
      intro c _
      unfold copies
      split <;> exact ⟨_, rfl⟩
    exact fun h => (h 4 hfindable).2 9 (by decide) ⟨by decide_cbv, by decide_cbv⟩

end Boxplot.Net.ImapText
