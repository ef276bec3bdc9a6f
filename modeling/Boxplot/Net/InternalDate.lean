import Boxplot.Lib.DateTime
import Boxplot.Lib.Spans
import Boxplot.Net.MessageIdSearch
/-!
# Internal dates

`imap_date_to_rfc3339` of `src-tauri/src/net/imap.rs`, on any text a server
sends. It splits the text at byte positions and checks some of its fields.
-/

namespace Boxplot.Net.ImapText

open Lib

/-! ## The function -/

/-- Whether a byte continues a character. -/
def isContinuation (b : UInt8) : Bool := b &&& 0xC0 = 0x80

/-- `str::parse` to an unsigned integer under `bound`: digits, perhaps after a plus sign. -/
def parseUnder (bound : Nat) (text : List UInt8) : Option Nat :=
  let digits := match text with
    | 43 :: rest => rest
    | _ => text
  if digits.isEmpty || !digits.all isDigitByte || bound ≤ decimal digits then none else some (decimal digits)

/-- `to_ascii_lowercase`. -/
def toAsciiLowercase (text : List UInt8) : List UInt8 := text.map fun b => if 65 ≤ b ∧ b ≤ 90 then b + 32 else b

def monthNames : List String := ["jan", "feb", "mar", "apr", "may", "jun", "jul", "aug", "sep", "oct", "nov", "dec"]

def monthNumber (name : List UInt8) : Option Nat :=
  ((monthNames.map bytes).findIdx? (· = toAsciiLowercase name)).map (· + 1)

/-- What is taken from an internal date. -/
structure ImapDate where
  day : Nat
  month : Nat
  year : Nat
  time : List UInt8
  timezone : List UInt8
  deriving DecidableEq, Repr

/-- The fields and the checks they pass. -/
def readImapDate (value : List UInt8) : Option ImapDate :=
  match words value with
  | date :: time :: timezone :: _ =>
    match date.splitOn 45 with
    | day :: month :: year :: _ => do
      let day ← parseUnder (2 ^ 8) day
      let month ← monthNumber month
      let year ← parseUnder (2 ^ 16) year
      if (time.splitOn 58).length ≠ 3 ∨ timezone.length ≠ 5 then none else some ⟨day, month, year, time, timezone⟩
    | _ => none
  | _ => none

/-- A number with zeros before it, up to a width. -/
def zeroPadded (width n : Nat) : List UInt8 := List.replicate (width - (bytes (toString n)).length) 48 ++ bytes (toString n)

def ImapDate.toRfc3339 (d : ImapDate) : List UInt8 :=
  zeroPadded 4 d.year ++ 45 :: (zeroPadded 2 d.month ++ 45 :: (zeroPadded 2 d.day ++ 84 ::
    (d.time ++ (d.timezone.take 3 ++ 58 :: d.timezone.drop 3))))

/-- What a call gives, unless it panics. -/
abbrev MayPanic (α : Type) := Option α

/-- A slice that cuts a character panics. -/
def imapDateToRfc3339 (value : List UInt8) : MayPanic (Option (List UInt8)) :=
  match readImapDate value with
  | none => some none
  | some d => if (d.timezone[3]?).any isContinuation then none else some (some d.toRfc3339)

/-! ## What is wanted of it -/

/-- An offset as the time zone of an internal date. -/
def timezoneText (o : Offset) : List UInt8 := o.sign :: (digits 2 o.hour ++ digits 2 o.minute)

/-- The first three words of a value are a date with these numbers, this time and this time zone. -/
def Fields (value : List UInt8) (d : ImapDate) : Prop :=
  ∃ date more day month year rest, words value = date :: d.time :: d.timezone :: more ∧
    date.splitOn 45 = day :: month :: year :: rest ∧ parseUnder (2 ^ 8) day = some d.day ∧
    monthNumber month = some d.month ∧ parseUnder (2 ^ 16) year = some d.year

/-- A date and time as it stands in an internal date. -/
def imapDateOf (d : DateTime) : ImapDate := ⟨d.date.day, d.date.month, d.date.year, d.time.text, timezoneText d.offset⟩

/-- No panic, and no result but a date and time with the same fields. -/
def ReadSafely (value : List UInt8) : Prop :=
  ∃ result, imapDateToRfc3339 value = some result ∧
    ∀ text, result = some text → ∃ d : DateTime, text = d.text ∧ Fields value (imapDateOf d)

/-- All fields are in range: of the date, those that the checks leave open. -/
structure ImapDate.InRange (d : ImapDate) : Prop where
  day : 1 ≤ d.day ∧ d.day ≤ daysIn d.year d.month
  year : d.year < 10000
  time : ∃ t : Time, d.time = t.text
  timezone : ∃ o : Offset, d.timezone = timezoneText o

/-! ## Digits -/

theorem isDigitByte_iff {b : UInt8} : isDigitByte b = true ↔ IsDigit b := by
  simp [isDigitByte, IsDigit, UInt8.le_iff_toNat_le]

theorem decimal_snoc (l : List UInt8) (b : UInt8) : decimal (l ++ [b]) = 10 * decimal l + (b.toNat - 48) := by
  simp [decimal]

theorem decimal_digits {width n : Nat} (h : n < 10 ^ width) : decimal (digits width n) = n := by
  induction width generalizing n with
  | zero =>
    rw [pow_zero] at h
    simp [digits, decimal]
    omega
  | succ width ih =>
    rw [digits, decimal_snoc, toNat_digit, ih (by rw [pow_succ] at h; omega)]
    omega

/-- Digits of one length are told apart by the number they read as. -/
theorem eq_digits {l : List UInt8} (h : ∀ b ∈ l, isDigitByte b = true) : l = digits l.length (decimal l) := by
  induction l using List.reverseRecOn with
  | nil => rfl
  | append_singleton l b ih =>
    have hb : 48 ≤ b.toNat ∧ b.toNat ≤ 57 := isDigitByte_iff.1 (h b (by simp))
    have hdiv : (10 * decimal l + (b.toNat - 48)) / 10 = decimal l := by omega
    have hmod : 48 + (10 * decimal l + (b.toNat - 48)) % 10 = b.toNat := by omega
    rw [decimal_snoc, List.length_append, List.length_singleton, digits, hdiv, hmod, ← ih fun c hc => h c (by simp [hc])]
    simp

theorem zeroPadded_digits {width n : Nat} {b : UInt8} (h : b ∈ zeroPadded width n) : isDigitByte b = true := by
  rcases List.mem_append.1 h with h | h
  · rw [List.eq_of_mem_replicate h]
    decide
  · exact toString_digits h

theorem decimal_zeroPadded (width n : Nat) : decimal (zeroPadded width n) = n := by
  rw [zeroPadded]
  generalize width - (bytes (toString n)).length = zeros
  induction zeros with
  | zero => exact decimal_toString n
  | succ zeros ih =>
    rw [List.replicate_succ, List.cons_append]
    exact ih

theorem zeroPadded_eq {width n : Nat} (hwidth : 0 < width) (h : n < 10 ^ width) : zeroPadded width n = digits width n := by
  have hlength : (bytes (toString n)).length ≤ width := by
    rw [(bytes_toString n).1, List.length_map]
    exact (Nat.length_toDigits_le_iff (by decide) hwidth).2 h
  have hpadded : (zeroPadded width n).length = width := by
    rw [zeroPadded, List.length_append, List.length_replicate]
    omega
  rw [eq_digits (l := zeroPadded width n) fun b => zeroPadded_digits, hpadded, decimal_zeroPadded]

/-- A number that is written so is the number of the digits. -/
theorem eq_of_zeroPadded {width n m : Nat} (hm : m < 10 ^ width) (h : zeroPadded width n = digits width m) : n = m := by
  have hdecimal := congrArg decimal h
  rwa [decimal_zeroPadded, decimal_digits hm] at hdecimal

theorem notMem_zeroPadded {width n : Nat} {b : UInt8} (h : isDigitByte b = false) : b ∉ zeroPadded width n := fun hmem => by
  rw [zeroPadded_digits hmem] at h
  cases h

theorem notMem_digits {width n : Nat} {b : UInt8} (h : isDigitByte b = false) : b ∉ digits width n := fun hmem => by
  rw [isDigitByte_iff.2 (isDigit_digits hmem)] at h
  cases h

/-! ## Results -/

/-- A time zone in its two halves. -/
theorem timezone_eq {timezone : List UInt8} {o : Offset} (hlength : timezone.length = 5) :
    timezone.take 3 ++ 58 :: timezone.drop 3 = o.text ↔ timezone = timezoneText o := by
  have htext : o.text = (o.sign :: digits 2 o.hour) ++ 58 :: digits 2 o.minute := rfl
  constructor
  · intro h
    obtain ⟨hfront, hback⟩ := List.append_inj (h.trans htext) (by simp [hlength])
    rw [← List.take_append_drop 3 timezone, hfront, (List.cons.inj hback).2]
    rfl
  · rintro rfl
    rw [htext, timezoneText, ← List.cons_append, List.take_left' (by simp), List.drop_left' (by simp)]

/-- A result is the text of a date and time if and only if the fields are its. -/
theorem toRfc3339_eq {d : ImapDate} {dateTime : DateTime} (hlength : d.timezone.length = 5) :
    d.toRfc3339 = dateTime.text ↔ d.year = dateTime.date.year ∧ d.month = dateTime.date.month ∧ d.day = dateTime.date.day ∧
      d.time = dateTime.time.text ∧ d.timezone = timezoneText dateTime.offset := by
  have hyear := dateTime.date.year_lt
  have hmonth : dateTime.date.month < 10 ^ 2 := by
    have := dateTime.date.month_range
    omega
  have hday : dateTime.date.day < 10 ^ 2 := Nat.lt_of_le_of_lt dateTime.date.day_le (by decide)
  have htext : dateTime.text = digits 4 dateTime.date.year ++ 45 :: (digits 2 dateTime.date.month ++ 45 ::
      (digits 2 dateTime.date.day ++ 84 :: (dateTime.time.text ++ dateTime.offset.text))) := by
    simp [DateTime.text, Date.text]
  rw [htext, ← timezone_eq hlength]
  constructor
  · intro h
    obtain ⟨hy, h⟩ := cut_inj (notMem_zeroPadded (by decide)) (notMem_digits (by decide)) h
    obtain ⟨hm, h⟩ := cut_inj (notMem_zeroPadded (by decide)) (notMem_digits (by decide)) h
    obtain ⟨hd, h⟩ := cut_inj (notMem_zeroPadded (by decide)) (notMem_digits (by decide)) h
    obtain ⟨ht, ho⟩ := List.append_inj' h (by simp [Offset.text, hlength])
    exact ⟨eq_of_zeroPadded hyear hy, eq_of_zeroPadded hmonth hm, eq_of_zeroPadded hday hd, ht, ho⟩
  · rintro ⟨hy, hm, hd, ht, ho⟩
    rw [ImapDate.toRfc3339, hy, hm, hd, ht, ho, zeroPadded_eq (by decide) hyear, zeroPadded_eq (by decide) hmonth,
      zeroPadded_eq (by decide) hday]

theorem readImapDate_eq_some {value : List UInt8} {d : ImapDate} :
    readImapDate value = some d ↔ Fields value d ∧ (d.time.splitOn 58).length = 3 ∧ d.timezone.length = 5 := by
  unfold readImapDate Fields
  split
  case h_1 date time timezone more hwords =>
    rw [hwords]
    split
    case h_1 day month year rest hdate =>
      simp only [Option.bind_eq_bind, Option.bind_eq_some_iff, Option.ite_none_left_eq_some, Option.some.injEq, not_or, not_not]
      constructor
      · rintro ⟨n, hn, m, hm, y, hy, ⟨htime, hzone⟩, rfl⟩
        exact ⟨⟨date, more, day, month, year, rest, rfl, hdate, hn, hm, hy⟩, htime, hzone⟩
      · rintro ⟨⟨date', more', day', month', year', rest', heq, hdate', hn, hm, hy⟩, htime, hzone⟩
        cases heq
        cases hdate.symm.trans hdate'
        exact ⟨_, hn, _, hm, _, hy, ⟨htime, hzone⟩, rfl⟩
    case h_2 hshort =>
      refine iff_of_false nofun ?_
      rintro ⟨⟨date', more', day', month', year', rest', heq, hdate', -⟩, -⟩
      cases heq
      exact hshort _ _ _ _ hdate'
  case h_2 hshort =>
    refine iff_of_false nofun ?_
    rintro ⟨⟨date', more', day', month', year', rest', heq, -⟩, -⟩
    exact hshort _ _ _ _ heq

theorem monthNumber_range {name : List UInt8} {month : Nat} (h : monthNumber name = some month) : 1 ≤ month ∧ month ≤ 12 := by
  obtain ⟨i, hi, rfl⟩ := Option.map_eq_some_iff.1 h
  have hlt := (List.findIdx?_eq_some_iff_getElem.1 hi).1
  have hlength : (monthNames.map bytes).length = 12 := rfl
  omega

theorem not_isContinuation {b : UInt8} (h : IsDigit b) : isContinuation b = false := by
  have hall : ∀ n < 58, n &&& 192 ≠ 128 := by decide
  have hne := hall b.toNat (Nat.lt_succ_of_le h.2)
  refine decide_eq_false fun heq => hne ?_
  have hnat := congrArg UInt8.toNat heq
  rwa [UInt8.toNat_and] at hnat

/-- A time zone is not cut within a character. -/
theorem timezone_boundary (o : Offset) : ((timezoneText o)[3]?).any isContinuation = false := by
  cases hb : (timezoneText o)[3]? with
  | none => rfl
  | some b =>
    rw [timezoneText, ← List.cons_append, List.getElem?_append_right (by simp)] at hb
    exact not_isContinuation (isDigit_digits (List.mem_of_getElem? hb))

theorem imapDateToRfc3339_accepted {value : List UInt8} {d : ImapDate} (h : readImapDate value = some d) :
    imapDateToRfc3339 value = if (d.timezone[3]?).any isContinuation then none else some (some d.toRfc3339) := by
  rw [imapDateToRfc3339, h]

/-- A value is read safely if and only if it is not accepted or all its fields are in range. -/
theorem internal_date_iff (value : String) : ReadSafely (bytes value) ↔
    ∀ d, Fields (bytes value) d → (d.time.splitOn 58).length = 3 → d.timezone.length = 5 → d.InRange := by
  constructor
  · rintro ⟨result, hresult, hsafe⟩ d hfields htime hzone
    rw [imapDateToRfc3339_accepted (readImapDate_eq_some.2 ⟨hfields, htime, hzone⟩)] at hresult
    split at hresult
    · cases hresult
    · obtain ⟨dateTime, htext, -⟩ := hsafe _ (Option.some.inj hresult).symm
      obtain ⟨hyear, hmonth, hday, ht, ho⟩ := (toRfc3339_eq hzone).1 htext
      refine ⟨?_, hyear ▸ dateTime.date.year_lt, ⟨_, ht⟩, ⟨_, ho⟩⟩
      rw [hyear, hmonth, hday]
      exact dateTime.date.day_range
  · intro h
    cases hread : readImapDate (bytes value) with
    | none => exact ⟨none, by rw [imapDateToRfc3339, hread], nofun⟩
    | some d =>
      obtain ⟨hfields, htime, hzone⟩ := readImapDate_eq_some.1 hread
      obtain ⟨hday, hyear, ⟨time, ht⟩, ⟨offset, ho⟩⟩ := h d hfields htime hzone
      have hmonth : 1 ≤ d.month ∧ d.month ≤ 12 := by
        obtain ⟨_, _, _, _, _, _, -, -, -, hmonth, -⟩ := hfields
        exact monthNumber_range hmonth
      have hresult := imapDateToRfc3339_accepted hread
      rw [ho, timezone_boundary] at hresult
      refine ⟨some d.toRfc3339, hresult, ?_⟩
      rintro _ ⟨⟩
      refine ⟨⟨⟨d.year, d.month, d.day, hyear, hmonth, hday⟩, time, offset⟩, ?_, ?_⟩
      · exact (toRfc3339_eq hzone).2 ⟨rfl, rfl, rfl, ht, ho⟩
      · have heq : imapDateOf ⟨⟨d.year, d.month, d.day, hyear, hmonth, hday⟩, time, offset⟩ = d := by
          rw [imapDateOf, ← ht, ← ho]
        rw [heq]
        exact hfields

/-- A time zone that is cut within a character, and a day that no month has. -/
theorem internal_date_unsafe :
    (imapDateToRfc3339 (bytes "28-Aug-2026 12:01:02 ab€") = none ∧ ¬ReadSafely (bytes "28-Aug-2026 12:01:02 ab€")) ∧
      (imapDateToRfc3339 (bytes "99-Aug-2026 12:01:02 +0000") = some (some (bytes "2026-08-99T12:01:02+00:00")) ∧
        ¬ReadSafely (bytes "99-Aug-2026 12:01:02 +0000")) := by
  have hpanic : imapDateToRfc3339 (bytes "28-Aug-2026 12:01:02 ab€") = none := by decide_cbv
  have hread : readImapDate (bytes "99-Aug-2026 12:01:02 +0000") = some ⟨99, 8, 2026, bytes "12:01:02", bytes "+0000"⟩ := by
    decide_cbv
  have hresult : imapDateToRfc3339 (bytes "99-Aug-2026 12:01:02 +0000") = some (some (bytes "2026-08-99T12:01:02+00:00")) := by
    decide_cbv
  refine ⟨⟨hpanic, ?_⟩, hresult, ?_⟩
  · rintro ⟨result, h, -⟩
    cases hpanic.symm.trans h
  · rintro ⟨result, h, hsafe⟩
    rw [imapDateToRfc3339_accepted hread, if_neg (by decide_cbv), Option.some.injEq] at h
    obtain ⟨dateTime, htext, -⟩ := hsafe _ h.symm
    obtain ⟨-, -, hday, -⟩ := (toRfc3339_eq (by decide_cbv)).1 htext
    change 99 = dateTime.date.day at hday
    have hle := dateTime.date.day_le
    omega

end Boxplot.Net.ImapText
