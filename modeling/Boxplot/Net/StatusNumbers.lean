import Boxplot.Net.ImapSnapshot
import Boxplot.Net.MailboxNames
/-!
# The numbers of a status

`number_after` of `src-tauri/src/net/imap.rs`, and `status` over the text of a
`STATUS` response. The numbers are those that the server lists, whatever the
mailbox is called, unless its name has the keyword of an item and another
number behind it.
-/

namespace Boxplot.Net.ImapText

open Lib

/-! ## Reading a number -/

/-- `str::parse::<u64>` of digits. -/
def parseU64 (digits : List UInt8) : Option UInt64 :=
  if digits.isEmpty || !digits.all isDigitByte || 2 ^ 64 ≤ decimal digits then none else some (UInt64.ofNat (decimal digits))

/-- The text without the white space it begins with, of which there are at most `fuel` characters. -/
def trimStartFrom : Nat → List UInt8 → List UInt8
  | 0, text => text
  | fuel + 1, text =>
    match dropSpace text with
    | some rest => trimStartFrom fuel rest
    | none => text

/-- `trim_start`. -/
def trimStart (text : List UInt8) : List UInt8 := trimStartFrom text.length text

def numberAfter (value key : List UInt8) : NetResult UInt64 :=
  match after key value with
  | none => .error (.protocol "imap_numeric_response_missing")
  | some remainder =>
    match parseU64 ((trimStart remainder).takeWhile isDigitByte) with
    | some n => .ok n
    | none => .error (.protocol "imap_numeric_response_invalid")

/-! ## Status -/

/-- What a line is to `status`. -/
def statusLine (line : ResponseLine) : ImapLine :=
  if startsWithBytes (bytes "* STATUS ") line.text then
    .status ⟨numberAfter line.text (bytes "MESSAGES"), numberAfter line.text (bytes "UNSEEN"),
      numberAfter line.text (bytes "UIDNEXT"), numberAfter line.text (bytes "UIDVALIDITY")⟩
  else .other

def statusCommand (quoted : List UInt8) : List UInt8 :=
  bytes "STATUS " ++ quoted ++ bytes " (MESSAGES UNSEEN UIDNEXT UIDVALIDITY)"

def status {S : Type} (command : ImapCommands S) (mailbox : String) : EStateM NativeMailErrorDto S NativeMailboxDto := do
  let quoted ← settle (quote mailbox)
  let lines ← command (statusCommand quoted)
  settle (readStatus mailbox (lines.map statusLine))

/-! ## The response -/

structure StatusNumbers where
  messages : UInt64
  unseen : UInt64
  uidNext : UInt32
  uidValidity : UInt32

inductive StatusItem
  | messages
  | unseen
  | uidNext
  | uidValidity
  deriving DecidableEq, Repr

namespace StatusItem

def all : List StatusItem := [.messages, .unseen, .uidNext, .uidValidity]

def key : StatusItem → String
  | .messages => "MESSAGES"
  | .unseen => "UNSEEN"
  | .uidNext => "UIDNEXT"
  | .uidValidity => "UIDVALIDITY"

def number (numbers : StatusNumbers) : StatusItem → Nat
  | .messages => numbers.messages.toNat
  | .unseen => numbers.unseen.toNat
  | .uidNext => numbers.uidNext.toNat
  | .uidValidity => numbers.uidValidity.toNat

/-- An item of the list. -/
def text (numbers : StatusNumbers) (item : StatusItem) : List UInt8 := bytes item.key ++ 32 :: bytes (toString (item.number numbers))

end StatusItem

/-- The line of a mailbox, with its items in this order. -/
def statusText (mailbox : String) (numbers : StatusNumbers) (order : List StatusItem) : List UInt8 :=
  bytes "* STATUS" ++ 32 :: (quotedText mailbox ++ 32 :: 40 :: (List.intercalate [32] (order.map (·.text numbers)) ++ [41]))

/-- The server answers with this line, perhaps among others that are no status. -/
def AnswersStatus {S : Type} (command : ImapCommands S) (s : S) (text : List UInt8) : Prop :=
  ∀ quoted, ∃ lines line s', command (statusCommand quoted) s = .ok lines s' ∧
    lines.find? (fun line => startsWithBytes (bytes "* STATUS ") line.text) = some line ∧ line.text = text

/-- No line breaks and no null characters, which a quoted string has not. -/
def Quotable (mailbox : String) : Prop := ∀ c ∈ mailbox.toList, ¬(c = '\r' ∨ c = '\n' ∨ c.toNat = 0)

instance (mailbox : String) : Decidable (Quotable mailbox) := List.decidableBAll _ mailbox.toList

/-- If the name has the keyword, then the first one has white space, if anything, and digits behind it, and they are the number. -/
def Harmless (mailbox key : String) (number : Nat) : Prop :=
  ∀ rest, after (bytes key) (bytes mailbox) = some rest →
    (trimStart rest).takeWhile isDigitByte ≠ [] ∧ decimal ((trimStart rest).takeWhile isDigitByte) = number

/-! ## Digits -/

theorem parseU64_eq_some {digits : List UInt8} (h : ∀ b ∈ digits, isDigitByte b = true) {n : UInt64} :
    parseU64 digits = some n ↔ digits ≠ [] ∧ decimal digits = n.toNat := by
  have hall : digits.all isDigitByte = true := List.all_eq_true.2 h
  unfold parseU64
  simp only [hall, Bool.not_true, Bool.or_false, Bool.or_eq_true, List.isEmpty_iff, decide_eq_true_eq]
  split
  case isTrue hbad =>
    refine iff_of_false nofun fun hgood => ?_
    have := n.toNat_lt
    rcases hbad with hbad | hbad
    · exact hgood.1 hbad
    · omega
  case isFalse hgood =>
    rw [not_or, Nat.not_le] at hgood
    rw [Option.some.injEq, ← UInt64.toNat_inj, UInt64.toNat_ofNat_of_lt' hgood.2]
    exact (and_iff_right hgood.1).symm

theorem numberAfter_eq_ok {value key : List UInt8} {n : UInt64} : numberAfter value key = .ok n ↔
    ∃ rest, after key value = some rest ∧ (trimStart rest).takeWhile isDigitByte ≠ [] ∧
      decimal ((trimStart rest).takeWhile isDigitByte) = n.toNat := by
  unfold numberAfter
  cases after key value with
  | none => simp
  | some rest =>
    have hdigits : ∀ b ∈ (trimStart rest).takeWhile isDigitByte, isDigitByte b = true := fun b hb => List.mem_takeWhile_imp hb
    simp only [Option.some.injEq, exists_eq_left', ← parseU64_eq_some hdigits]
    cases parseU64 ((trimStart rest).takeWhile isDigitByte) <;> simp

/-! ## What is found -/

/-- A text is searched on either side of a byte that the marker does not have. -/
theorem stripPrefix_separated {sep : UInt8} {marker : List UInt8} (h : sep ∉ marker) (a b : List UInt8) :
    stripPrefix marker (a ++ sep :: b) = (stripPrefix marker a).map (· ++ sep :: b) := by
  unfold stripPrefix
  induction marker generalizing a with
  | nil => rfl
  | cons m marker ih =>
    have hne : m ≠ sep := fun heq => h (heq ▸ List.mem_cons_self)
    cases a with
    | nil => simp [hne]
    | cons x a =>
      have htail := ih (fun hmem => h (List.mem_cons_of_mem m hmem)) a
      by_cases hx : m = x
      · simpa [hx] using htail
      · simp [hx]

theorem after_separated {sep : UInt8} {marker : List UInt8} (h : sep ∉ marker) (a b : List UInt8) :
    after marker (a ++ sep :: b) = ((after marker a).map (· ++ sep :: b)).or (after marker b) := by
  induction a with
  | nil =>
    have hhead := stripPrefix_separated h [] b
    rw [List.nil_append, after.eq_def, after.eq_def marker [], ← List.nil_append (sep :: b), hhead]
    cases stripPrefix marker [] <;> rfl
  | cons x a ih =>
    have hhead := stripPrefix_separated h (x :: a) b
    rw [List.cons_append, after.eq_def, after.eq_def marker (x :: a), ← List.cons_append, hhead]
    cases stripPrefix marker (x :: a) with
    | some rest => rfl
    | none => exact ih

/-- A byte that a keyword has. -/
def isKeyByte (b : UInt8) : Bool := 65 ≤ b && b ≤ 90

theorem key_upper (item : StatusItem) : (bytes item.key).all isKeyByte = true := by
  cases item <;> decide_cbv

theorem notMem_key {b : UInt8} (h : isKeyByte b = false) (item : StatusItem) : b ∉ bytes item.key := fun hmem => by
  have hkey := List.all_eq_true.1 (key_upper item) b hmem
  rw [h] at hkey
  cases hkey

theorem stripPrefix_escape {key : List UInt8} (hslash : 92 ∉ key) (hquote : 34 ∉ key) (text : List UInt8) :
    stripPrefix key (escape 92 34 text) = (stripPrefix key text).map (escape 92 34) := by
  unfold stripPrefix
  induction key generalizing text with
  | nil => rfl
  | cons k key ih =>
    rw [List.mem_cons, not_or] at hslash hquote
    cases text with
    | nil => rfl
    | cons b text =>
      rw [escape_cons]
      by_cases hb : b = 92 ∨ b = 34
      · have hk : k ≠ b := by rintro rfl; exact hb.elim (hslash.1 ·.symm) (hquote.1 ·.symm)
        rw [if_pos hb]
        simp [hk, Ne.symm hslash.1]
      · have htail := ih hslash.2 hquote.2 text
        rw [if_neg hb]
        by_cases hk : k = b
        · simpa [hk] using htail
        · simp [hk]

/-- Nothing is found where a byte stands that the marker does not have. -/
theorem after_cons {marker : List UInt8} (hne : marker ≠ []) {b : UInt8} (h : b ∉ marker) (text : List UInt8) :
    after marker (b :: text) = after marker text := by
  obtain ⟨m, marker, rfl⟩ := List.exists_cons_of_ne_nil hne
  have hnone : stripPrefix (m :: marker) (b :: text) = none := by
    refine if_neg ?_
    rw [List.isPrefixOf_cons_cons, Bool.and_eq_true_iff, beq_iff_eq]
    rintro ⟨rfl, -⟩
    exact h List.mem_cons_self
  rw [after.eq_def, hnone]

/-- Quoting neither makes a keyword nor breaks one. -/
theorem after_escape {key : List UInt8} (hne : key ≠ []) (hslash : 92 ∉ key) (hquote : 34 ∉ key) (text : List UInt8) :
    after key (escape 92 34 text) = (after key text).map (escape 92 34) := by
  induction text with
  | nil =>
    obtain ⟨k, key, rfl⟩ := List.exists_cons_of_ne_nil hne
    rfl
  | cons b text ih =>
    rw [escape_cons]
    by_cases hb : b = 92 ∨ b = 34
    · have hkey : b ∉ key := by rintro hmem; rcases hb with rfl | rfl <;> contradiction
      rw [if_pos hb, List.cons_append, after_cons hne hslash, List.singleton_append, after_cons hne hkey, after_cons hne hkey, ih]
    · have hhead := stripPrefix_escape hslash hquote (b :: text)
      rw [escape_cons, if_neg hb] at hhead
      rw [if_neg hb, after.eq_def, after.eq_def key (b :: text), hhead]
      cases stripPrefix key (b :: text) with
      | some rest => rfl
      | none => exact ih

theorem after_skip {marker : List UInt8} (hne : marker ≠ []) {a : List UInt8} (h : ∀ b ∈ a, b ∉ marker) (text : List UInt8) :
    after marker (a ++ text) = after marker text := by
  induction a with
  | nil => rfl
  | cons b a ih =>
    rw [List.cons_append, after_cons hne (h b List.mem_cons_self)]
    exact ih fun c hc => h c (List.mem_cons_of_mem b hc)

theorem key_ne_nil (item : StatusItem) : bytes item.key ≠ [] := by
  cases item <;> decide_cbv

/-- No keyword is part of another. -/
theorem after_key (item other : StatusItem) :
    after (bytes item.key) (bytes other.key) = if item = other then some [] else none := by
  cases item <;> cases other <;> decide_cbv

theorem isKeyByte_of_digit {b : UInt8} (h : isDigitByte b = true) : isKeyByte b = false := by
  have hdigit : 48 ≤ b.toNat ∧ b.toNat ≤ 57 := by simpa [isDigitByte, UInt8.le_iff_toNat_le] using h
  simp only [isKeyByte, Bool.and_eq_false_iff, decide_eq_false_iff_not, UInt8.le_iff_toNat_le, UInt8.reduceToNat]
  omega

/-- An item is found in the list, with its number behind a space. -/
theorem after_items (numbers : StatusNumbers) {item : StatusItem} {order : List StatusItem} (h : item ∈ order) :
    ∃ b rest, isDigitByte b = false ∧ after (bytes item.key) (List.intercalate [32] (order.map (·.text numbers)) ++ [41]) =
      some (32 :: (bytes (toString (item.number numbers)) ++ b :: rest)) := by
  induction order with
  | nil => cases h
  | cons first order ih =>
    -- the byte behind the number, and what follows it
    obtain ⟨b, rest, htext, hb, hrest⟩ : ∃ b rest, List.intercalate [32] ((first :: order).map (·.text numbers)) ++ [41] =
        bytes first.key ++ 32 :: (bytes (toString (first.number numbers)) ++ b :: rest) ∧ (b = 32 ∨ b = 41) ∧
        (order ≠ [] → rest = List.intercalate [32] (order.map (·.text numbers)) ++ [41]) := by
      cases order with
      | nil => exact ⟨41, [], by simp [StatusItem.text, List.intercalate], .inr rfl, fun h => absurd rfl h⟩
      | cons second order => exact ⟨32, _, by simp [StatusItem.text, List.intercalate], .inl rfl, fun _ => rfl⟩
    have hseparator : isDigitByte b = false ∧ isKeyByte b = false := by rcases hb with rfl | rfl <;> decide
    rw [htext, after_separated (notMem_key (by decide) item), after_key]
    by_cases heq : item = first
    · subst heq
      exact ⟨b, rest, hseparator.1, by simp⟩
    · have hmem : item ∈ order := (List.mem_cons.1 h).resolve_left heq
      rw [if_neg heq, after_skip (key_ne_nil item) fun c hc => notMem_key (isKeyByte_of_digit (toString_digits hc)) item,
        after_cons (key_ne_nil item) (notMem_key hseparator.2 item), hrest (List.ne_nil_of_mem hmem)]
      simpa using ih hmem

/-- A keyword is found in the name first, and in the list if the name has it not. -/
theorem after_statusText (mailbox : String) (numbers : StatusNumbers) (order : List StatusItem) (item : StatusItem) :
    after (bytes item.key) (statusText mailbox numbers order) =
      ((after (bytes item.key) (bytes mailbox)).map fun rest => escape 92 34 rest ++ 34 :: 32 :: 40 ::
        (List.intercalate [32] (order.map (·.text numbers)) ++ [41])).or
      (after (bytes item.key) (List.intercalate [32] (order.map (·.text numbers)) ++ [41])) := by
  have hne := key_ne_nil item
  have hstart : after (bytes item.key) (bytes "* STATUS") = none := by cases item <;> decide_cbv
  have hnot : ∀ {b : UInt8}, isKeyByte b = false → b ∉ bytes item.key := fun h => notMem_key h item
  rw [statusText, quotedText, after_separated (hnot (by decide)), hstart]
  simp only [List.cons_append, List.append_assoc, List.nil_append, Option.map_none, Option.none_or]
  rw [after_cons hne (hnot (by decide)), after_separated (hnot (by decide)), after_escape hne (hnot (by decide)) (hnot (by decide)),
    after_cons hne (hnot (by decide)), after_cons hne (hnot (by decide)), Option.map_map]
  rfl

/-! ## The number behind a keyword of the name -/

theorem quoted_cons {l tail r : List UInt8} {c : UInt8} (hslash : c ≠ 92) (hquote : c ≠ 34)
    (h : escape 92 34 l ++ 34 :: tail = c :: r) : ∃ l', l = c :: l' ∧ r = escape 92 34 l' ++ 34 :: tail := by
  cases l with
  | nil =>
    cases h
    contradiction
  | cons b l =>
    rw [escape_cons] at h
    by_cases hb : b = 92 ∨ b = 34
    · rw [if_pos hb] at h
      cases h
      contradiction
    · rw [if_neg hb] at h
      cases h
      exact ⟨l, rfl, rfl⟩

theorem escape_plain {b : UInt8} (h : ¬(b = 92 ∨ b = 34)) (l : List UInt8) : escape 92 34 (b :: l) = b :: escape 92 34 l := by
  rw [escape_cons, if_neg h]
  rfl

theorem dropSpace_blank {b : UInt8} (h : 9 ≤ b ∧ b ≤ 13 ∨ b = 32) (rest : List UInt8) : dropSpace (b :: rest) = some rest := by
  unfold dropSpace
  split
  case h_7 =>
    rename_i heq
    cases heq
    exact if_pos h
  case h_8 heq => cases heq
  -- the other white space begins with a byte past ASCII
  all_goals
    rename_i heq
    obtain rfl := (List.cons.inj heq).1
    exact absurd h (by decide)

theorem dropSpace_quoted (l tail : List UInt8) :
    dropSpace (escape 92 34 l ++ 34 :: tail) = (dropSpace l).map (escape 92 34 · ++ 34 :: tail) := by
  fun_cases dropSpace l
  case case4 c rest h =>
    have hc : ¬(c = 92 ∨ c = 34) := by rintro (rfl | rfl) <;> exact absurd h (by decide)
    rw [escape_plain (by decide), escape_plain (by decide), escape_plain hc]
    exact if_pos h
  case case5 c rest h =>
    rw [escape_plain (by decide), escape_plain (by decide)]
    by_cases hc : c = 92 ∨ c = 34
    · rw [escape_cons, if_pos hc]
      rfl
    · rw [escape_plain hc]
      exact if_neg h
  case case8 b rest _ _ _ _ _ _ h =>
    have hb : ¬(b = 92 ∨ b = 34) := by rintro (rfl | rfl) <;> exact absurd h (by decide)
    rw [escape_plain hb]
    exact dropSpace_blank h _
  case case9 b rest h1 h2 h3 h4 h5 h6 h =>
    by_cases hb : b = 92 ∨ b = 34
    · rw [escape_cons, if_pos hb]
      rfl
    · rw [escape_plain hb, List.cons_append]
      unfold dropSpace
      split
      case h_4 heq =>
        obtain ⟨rfl, hrest⟩ := List.cons.inj heq
        obtain ⟨rest', rfl, hrest'⟩ := quoted_cons (by decide) (by decide) hrest
        refine if_neg fun hc => ?_
        obtain ⟨rest'', rfl, -⟩ := quoted_cons (by rintro rfl; exact absurd hc (by decide))
          (by rintro rfl; exact absurd hc (by decide)) hrest'.symm
        exact h4 _ _ rfl rfl
      case h_7 heq =>
        cases heq
        exact if_neg h
      case h_8 => rfl
      all_goals
        rename_i heq
        obtain ⟨rfl, hrest⟩ := List.cons.inj heq
        obtain ⟨rest', rfl, hrest'⟩ := quoted_cons (by decide) (by decide) hrest
        try obtain ⟨rest'', rfl, -⟩ := quoted_cons (by decide) (by decide) hrest'.symm
        first
          | exact (h1 _ rfl rfl).elim
          | exact (h2 _ rfl rfl).elim
          | exact (h3 _ rfl rfl).elim
          | exact (h5 _ rfl rfl).elim
          | exact (h6 _ rfl rfl).elim
  all_goals simp [escape_cons, dropSpace]
  all_goals rfl

theorem dropSpace_length {l r : List UInt8} (h : dropSpace l = some r) : r.length < l.length := by
  unfold dropSpace at h
  split at h <;> try split at h
  all_goals cases h
  all_goals
    simp only [List.length_cons]
    omega

theorem trimStartFrom_quoted {l : List UInt8} {fuel fuel' : Nat} (h : l.length ≤ fuel) (h' : l.length ≤ fuel') (tail : List UInt8) :
    trimStartFrom fuel' (escape 92 34 l ++ 34 :: tail) = escape 92 34 (trimStartFrom fuel l) ++ 34 :: tail := by
  induction fuel generalizing l fuel' with
  | zero =>
    obtain rfl := List.length_eq_zero_iff.1 (Nat.le_zero.1 h)
    cases fuel' <;> rfl
  | succ fuel ih =>
    have hspace := dropSpace_quoted l tail
    cases hl : dropSpace l with
    | none =>
      rw [hl] at hspace
      have hleft : trimStartFrom (fuel + 1) l = l := by simp only [trimStartFrom, hl]
      rw [hleft]
      cases fuel' with
      | zero => rfl
      | succ fuel' => simp only [trimStartFrom, hspace, Option.map_none]
    | some r =>
      rw [hl] at hspace
      have hlength := dropSpace_length hl
      obtain ⟨fuel', rfl⟩ : ∃ n, fuel' = n + 1 := ⟨fuel' - 1, by omega⟩
      simp only [trimStartFrom, hl, hspace, Option.map_some]
      exact ih (by omega) (by omega)

theorem takeWhile_quoted (l tail : List UInt8) :
    (escape 92 34 l ++ 34 :: tail).takeWhile isDigitByte = l.takeWhile isDigitByte := by
  induction l with
  | nil => rfl
  | cons b l ih =>
    by_cases hb : b = 92 ∨ b = 34
    · have hdigit : isDigitByte b = false := by rcases hb with rfl | rfl <;> decide
      rw [escape_cons, if_pos hb, List.takeWhile_cons, hdigit]
      rfl
    · rw [escape_plain hb, List.cons_append, List.takeWhile_cons, List.takeWhile_cons, ih]

theorem digits_quoted (rest tail : List UInt8) :
    (trimStart (escape 92 34 rest ++ 34 :: tail)).takeWhile isDigitByte = (trimStart rest).takeWhile isDigitByte := by
  have hlength : rest.length ≤ (escape 92 34 rest ++ 34 :: tail).length := by
    rw [List.length_append]
    exact (length_le_escape rest).trans (Nat.le_add_right _ _)
  rw [trimStart, trimStart, trimStartFrom_quoted (Nat.le_refl _) hlength, takeWhile_quoted]

theorem digits_space (n : Nat) {b : UInt8} (hb : isDigitByte b = false) (rest : List UInt8) :
    (trimStart (32 :: (bytes (toString n) ++ b :: rest))).takeWhile isDigitByte = bytes (toString n) := by
  have hdigits : ∀ d ∈ bytes (toString n), isDigitByte d = true := fun d hd => toString_digits hd
  have htrim : trimStart (32 :: (bytes (toString n) ++ b :: rest)) = bytes (toString n) ++ b :: rest := by
    obtain ⟨d, digits, hcons⟩ := List.exists_cons_of_ne_nil (toString_ne_nil n)
    have hplain := dropSpace_plain (digit_plain (hdigits d (hcons ▸ List.mem_cons_self))).1 (digits ++ b :: rest)
    rw [hcons]
    simp only [trimStart, List.length_cons, List.cons_append, trimStartFrom, hplain, dropSpace_blank (.inr rfl)]
  rw [htrim, List.takeWhile_append_of_pos hdigits, List.takeWhile_cons, hb]
  exact List.append_nil _

/-! ## What is read -/

theorem numberAfter_statusText (mailbox : String) {numbers : StatusNumbers} {order : List StatusItem} {item : StatusItem}
    (h : item ∈ order) {n : UInt64} (hn : n.toNat = item.number numbers) :
    numberAfter (statusText mailbox numbers order) (bytes item.key) = .ok n ↔ Harmless mailbox item.key (item.number numbers) := by
  rw [numberAfter_eq_ok, after_statusText, Harmless, hn]
  cases after (bytes item.key) (bytes mailbox) with
  | none =>
    obtain ⟨b, rest, hb, hitems⟩ := after_items numbers h
    rw [Option.map_none, Option.none_or, hitems]
    refine iff_of_true ⟨_, rfl, ?_⟩ nofun
    rw [digits_space _ hb]
    exact ⟨toString_ne_nil _, decimal_toString _⟩
  | some rest => simp only [Option.map_some, Option.some_or, Option.some.injEq, exists_eq_left', forall_eq', digits_quoted]

theorem toU32_eq_ok {n : UInt64} {code : String} {k : UInt32} : toU32 n code = .ok k ↔ n = k.toUInt64 := by
  unfold toU32
  split
  case isTrue hlt =>
    rw [Except.ok.injEq, ← UInt32.toNat_inj, ← UInt64.toNat_inj, UInt64.toNat_toUInt32, UInt32.toNat_toUInt64, Nat.mod_eq_of_lt hlt]
  case isFalse hge =>
    refine iff_of_false nofun ?_
    rintro rfl
    exact hge k.toNat_lt

theorem findSome_statusLine {lines : List ResponseLine} {line : ResponseLine}
    (h : lines.find? (fun line => startsWithBytes (bytes "* STATUS ") line.text) = some line) :
    (lines.map statusLine).findSome? (fun | .status line => some line | _ => none) =
      some ⟨numberAfter line.text (bytes "MESSAGES"), numberAfter line.text (bytes "UNSEEN"),
        numberAfter line.text (bytes "UIDNEXT"), numberAfter line.text (bytes "UIDVALIDITY")⟩ := by
  induction lines with
  | nil => cases h
  | cons first lines ih =>
    rw [List.find?_cons] at h
    rw [List.map_cons, List.findSome?_cons, statusLine]
    cases hfirst : startsWithBytes (bytes "* STATUS ") first.text with
    | true =>
      rw [hfirst] at h
      cases h
      rfl
    | false =>
      rw [hfirst] at h
      exact ih h

theorem quote_eq_ok (mailbox : String) : (∃ quoted, quote mailbox = .ok quoted) ↔ Quotable mailbox := by
  unfold quote Quotable
  split
  case isTrue h =>
    obtain ⟨c, hc, hbad⟩ := List.any_eq_true.1 h
    exact iff_of_false (fun ⟨_, h⟩ => nomatch h) fun hall => hall c hc (of_decide_eq_true hbad)
  case isFalse h =>
    exact iff_of_true ⟨_, rfl⟩ fun c hc hbad => h (List.any_eq_true.2 ⟨c, hc, decide_eq_true hbad⟩)

theorem readStatus_eq_ok {mailbox : String} {numbers : StatusNumbers} {lines : List ResponseLine} {line : ResponseLine}
    (h : lines.find? (fun line => startsWithBytes (bytes "* STATUS ") line.text) = some line) :
    readStatus mailbox (lines.map statusLine) =
        .ok ⟨mailbox, numbers.messages, numbers.unseen, numbers.uidValidity, numbers.uidNext, none⟩ ↔
      numberAfter line.text (bytes "MESSAGES") = .ok numbers.messages ∧ numberAfter line.text (bytes "UNSEEN") = .ok numbers.unseen ∧
        numberAfter line.text (bytes "UIDNEXT") = .ok numbers.uidNext.toUInt64 ∧
        numberAfter line.text (bytes "UIDVALIDITY") = .ok numbers.uidValidity.toUInt64 := by
  have hfound := findSome_statusLine h
  unfold readStatus
  split
  case h_1 hnone => cases hnone.symm.trans hfound
  case h_2 found hsome =>
    cases hsome.symm.trans hfound
    simp only [except_bind_eq_ok, toU32_eq_ok, Except.ok.injEq, NativeMailboxDto.mk.injEq, true_and, and_true]
    constructor
    · rintro ⟨m, hm, u, hu, n, hn, k, rfl, v, hv, j, rfl, rfl, rfl, rfl, rfl⟩
      exact ⟨hm, hu, hn, hv⟩
    · rintro ⟨hm, hu, hn, hv⟩
      exact ⟨_, hm, _, hu, _, hn, _, rfl, _, hv, _, rfl, rfl, rfl, rfl, rfl⟩

/-- `status` answers the numbers that are listed. -/
def ReadsStatus {S : Type} (command : ImapCommands S) (s : S) (mailbox : String) (numbers : StatusNumbers) : Prop :=
  ∃ s', status command mailbox s =
    .ok ⟨mailbox, numbers.messages, numbers.unseen, numbers.uidValidity, numbers.uidNext, none⟩ s'

theorem readsStatus_answered {S : Type} {command : ImapCommands S} {s : S} {mailbox : String} {numbers : StatusNumbers}
    {text : List UInt8} (hquotable : Quotable mailbox) (hanswer : AnswersStatus command s text) :
    ReadsStatus command s mailbox numbers ↔
      numberAfter text (bytes "MESSAGES") = .ok numbers.messages ∧ numberAfter text (bytes "UNSEEN") = .ok numbers.unseen ∧
        numberAfter text (bytes "UIDNEXT") = .ok numbers.uidNext.toUInt64 ∧
        numberAfter text (bytes "UIDVALIDITY") = .ok numbers.uidValidity.toUInt64 := by
  obtain ⟨quoted, hquote⟩ := (quote_eq_ok mailbox).2 hquotable
  obtain ⟨lines, line, s', hcommand, hfind, rfl⟩ := hanswer quoted
  rw [ReadsStatus, status, hquote, bind_ok (settle_ok quoted s), bind_ok hcommand]
  simp only [settle_eq_ok, exists_and_left, exists_eq, and_true, readStatus_eq_ok hfind]

/-- The numbers are read as they are listed if and only if the mailbox can be asked for and its name misleads about none. -/
theorem status_numbers_iff {S : Type} (command : ImapCommands S) (s : S) (mailbox : String) (numbers : StatusNumbers)
    (order : List StatusItem) (horder : order.Perm StatusItem.all)
    (hanswer : AnswersStatus command s (statusText mailbox numbers order)) :
    ReadsStatus command s mailbox numbers ↔
      Quotable mailbox ∧ ∀ item : StatusItem, Harmless mailbox item.key (item.number numbers) := by
  have hmem : ∀ item : StatusItem, item ∈ order := by
    intro item
    rw [horder.mem_iff]
    cases item <;> decide
  have hnumber : ∀ (item : StatusItem) {n : UInt64}, n.toNat = item.number numbers →
      (numberAfter (statusText mailbox numbers order) (bytes item.key) = .ok n ↔ Harmless mailbox item.key (item.number numbers)) :=
    fun item _ => numberAfter_statusText mailbox (hmem item)
  by_cases hquotable : Quotable mailbox
  case neg =>
    refine iff_of_false ?_ fun h => hquotable h.1
    rintro ⟨s', h⟩
    obtain ⟨quoted, t, hquote, -⟩ := bind_eq_ok.1 h
    exact hquotable ((quote_eq_ok mailbox).1 ⟨quoted, (settle_eq_ok.1 hquote).1⟩)
  rw [readsStatus_answered hquotable hanswer, and_iff_right hquotable]
  constructor
  · rintro ⟨hm, hu, hn, hv⟩ item
    cases item with
    | messages => exact (hnumber .messages rfl).1 hm
    | unseen => exact (hnumber .unseen rfl).1 hu
    | uidNext => exact (hnumber .uidNext rfl).1 hn
    | uidValidity => exact (hnumber .uidValidity rfl).1 hv
  · intro h
    exact ⟨(hnumber .messages rfl).2 (h _), (hnumber .unseen rfl).2 (h _), (hnumber .uidNext rfl).2 (h _),
      (hnumber .uidValidity rfl).2 (h _)⟩

/-- A server that answers every command with this line. -/
def answering (text : List UInt8) : ImapCommands Unit := fun _ s => .ok [⟨text, none⟩] s

theorem answering_statusText (mailbox : String) (numbers : StatusNumbers) (order : List StatusItem) :
    AnswersStatus (answering (statusText mailbox numbers order)) () (statusText mailbox numbers order) := by
  have hstarts : startsWithBytes (bytes "* STATUS ") (statusText mailbox numbers order) = true := by
    have hsplit : bytes "* STATUS " = bytes "* STATUS" ++ [32] := by decide_cbv
    have hcons : ∀ text : List UInt8, bytes "* STATUS" ++ 32 :: text = bytes "* STATUS " ++ text := fun text => by
      rw [hsplit, List.append_assoc, List.singleton_append]
    rw [statusText, hcons, startsWithBytes, stripPrefix_append]
    rfl
  intro quoted
  refine ⟨[⟨statusText mailbox numbers order, none⟩], ⟨statusText mailbox numbers order, none⟩, (), rfl, ?_, rfl⟩
  rw [List.find?_cons, hstarts]

theorem status_numbers_inbox :
    ReadsStatus (answering (statusText "INBOX" ⟨3, 1, 44, 7⟩ [.uidNext, .messages, .uidValidity, .unseen])) () "INBOX" ⟨3, 1, 44, 7⟩ := by
  refine (status_numbers_iff _ () "INBOX" ⟨3, 1, 44, 7⟩ [.uidNext, .messages, .uidValidity, .unseen] (by decide)
    (answering_statusText _ _ _)).2 ⟨by decide, fun item rest h => ?_⟩
  have hnone : after (bytes item.key) (bytes "INBOX") = none := by cases item <;> decide_cbv
  cases hnone.symm.trans h

/-- The name of a mailbox is taken for its uid validity. -/
theorem status_numbers_misread :
    ¬ReadsStatus (answering (statusText "UIDVALIDITY 9" ⟨3, 1, 44, 7⟩ StatusItem.all)) () "UIDVALIDITY 9" ⟨3, 1, 44, 7⟩ ∧
      ReadsStatus (answering (statusText "UIDVALIDITY 9" ⟨3, 1, 44, 7⟩ StatusItem.all)) () "UIDVALIDITY 9" ⟨3, 1, 44, 9⟩ := by
  have hquotable : Quotable "UIDVALIDITY 9" := by decide
  have hanswer := answering_statusText "UIDVALIDITY 9" ⟨3, 1, 44, 7⟩ StatusItem.all
  have hread : ReadsStatus (answering (statusText "UIDVALIDITY 9" ⟨3, 1, 44, 7⟩ StatusItem.all)) () "UIDVALIDITY 9" ⟨3, 1, 44, 9⟩ :=
    (readsStatus_answered hquotable hanswer).2 ⟨by decide_cbv, by decide_cbv, by decide_cbv, by decide_cbv⟩
  refine ⟨?_, hread⟩
  rintro ⟨s', h⟩
  obtain ⟨s'', hread⟩ := hread
  cases hread.symm.trans h

end Boxplot.Net.ImapText
