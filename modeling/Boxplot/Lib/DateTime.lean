import Mathlib.Tactic
/-!
# Dates and times

Calendar dates and times of day with an offset from universal time, their text
by RFC 3339 and the instant that they name.
-/

namespace Boxplot.Lib

/-! ## Digits -/

/-- The last `width` decimal digits of a number. -/
def digits : Nat → Nat → List UInt8
  | 0, _ => []
  | width + 1, n => digits width (n / 10) ++ [UInt8.ofNat (48 + n % 10)]

@[simp] theorem length_digits (width n : Nat) : (digits width n).length = width := by
  induction width generalizing n with
  | zero => rfl
  | succ width ih => simp [digits, ih]

/-- The bytes of digits. -/
def IsDigit (b : UInt8) : Prop := 48 ≤ b.toNat ∧ b.toNat ≤ 57

instance (b : UInt8) : Decidable (IsDigit b) := inferInstanceAs (Decidable (_ ∧ _))

theorem toNat_digit (n : Nat) : (UInt8.ofNat (48 + n % 10)).toNat = 48 + n % 10 := by
  rw [UInt8.toNat_ofNat']
  omega

theorem isDigit_digits {width n : Nat} {b : UInt8} (h : b ∈ digits width n) : IsDigit b := by
  induction width generalizing n with
  | zero => cases h
  | succ width ih =>
    rw [digits, List.mem_append, List.mem_singleton] at h
    rcases h with h | rfl
    · exact ih h
    · have := toNat_digit n
      unfold IsDigit
      omega

theorem digits_injective {width n m : Nat} (hn : n < 10 ^ width) (hm : m < 10 ^ width) (h : digits width n = digits width m) : n = m := by
  induction width generalizing n m with
  | zero =>
    rw [pow_zero] at hn hm
    omega
  | succ width ih =>
    rw [digits, digits] at h
    obtain ⟨hfront, hlast⟩ := List.append_inj' h rfl
    rw [pow_succ] at hn hm
    have hdiv := ih (by omega) (by omega) hfront
    have hmod := congrArg UInt8.toNat (List.singleton_inj.1 hlast)
    rw [toNat_digit, toNat_digit] at hmod
    omega

/-! ## The calendar -/

def isLeapYear (year : Nat) : Bool := year % 4 = 0 && (year % 100 ≠ 0 || year % 400 = 0)

def daysIn (year month : Nat) : Nat :=
  if month = 2 then if isLeapYear year then 29 else 28
  else if month = 4 ∨ month = 6 ∨ month = 9 ∨ month = 11 then 30
  else 31

/-- A day of a year of four digits. -/
structure Date where
  year : Nat
  month : Nat
  day : Nat
  year_lt : year < 10000
  month_range : 1 ≤ month ∧ month ≤ 12
  day_range : 1 ≤ day ∧ day ≤ daysIn year month
  deriving DecidableEq

theorem Date.day_le (d : Date) : d.day ≤ 31 := by
  have hday := d.day_range.2
  unfold daysIn at hday
  split at hday
  · split at hday <;> omega
  · split at hday <;> omega

/-- A time of the day. The second 60 is a leap second; `fraction` is what follows the full second, in digits. -/
structure Time where
  hour : Nat
  minute : Nat
  second : Nat
  fraction : List UInt8
  hour_lt : hour < 24
  minute_lt : minute < 60
  second_le : second ≤ 60
  fraction_digits : ∀ b ∈ fraction, IsDigit b
  deriving DecidableEq

/-- How far local time is from universal time. -/
structure Offset where
  west : Bool
  hour : Nat
  minute : Nat
  hour_lt : hour < 24
  minute_lt : minute < 60
  deriving DecidableEq

structure DateTime where
  date : Date
  time : Time
  offset : Offset
  deriving DecidableEq

/-! ## Text -/

def Date.text (d : Date) : List UInt8 := digits 4 d.year ++ 45 :: (digits 2 d.month ++ 45 :: digits 2 d.day)

/-- A point and the digits behind it, if there are any. -/
def fractionText : List UInt8 → List UInt8
  | [] => []
  | fraction => 46 :: fraction

def Time.text (t : Time) : List UInt8 :=
  digits 2 t.hour ++ 58 :: (digits 2 t.minute ++ 58 :: (digits 2 t.second ++ fractionText t.fraction))

def Offset.sign (o : Offset) : UInt8 := if o.west then 45 else 43

def Offset.text (o : Offset) : List UInt8 := o.sign :: (digits 2 o.hour ++ 58 :: digits 2 o.minute)

/-- RFC 3339. -/
def DateTime.text (d : DateTime) : List UInt8 := d.date.text ++ 84 :: (d.time.text ++ d.offset.text)

theorem Date.text_injective {d d' : Date} (h : d.text = d'.text) : d = d' := by
  obtain ⟨hyear, h⟩ := List.append_inj h (by simp)
  obtain ⟨hmonth, h⟩ := List.append_inj (List.cons.inj h).2 (by simp)
  have hday := digits_injective (Nat.lt_of_le_of_lt d.day_le (by decide)) (Nat.lt_of_le_of_lt d'.day_le (by decide)) (List.cons.inj h).2
  have hyear := digits_injective d.year_lt d'.year_lt hyear
  have hmonth := digits_injective (Nat.lt_of_le_of_lt d.month_range.2 (by decide)) (Nat.lt_of_le_of_lt d'.month_range.2 (by decide)) hmonth
  cases d
  cases d'
  simp_all

theorem fractionText_injective {l l' : List UInt8} (h : fractionText l = fractionText l') : l = l' := by
  cases l <;> cases l' <;> simp_all [fractionText]

theorem Time.text_injective {t t' : Time} (h : t.text = t'.text) : t = t' := by
  obtain ⟨hhour, h⟩ := List.append_inj h (by simp)
  obtain ⟨hminute, h⟩ := List.append_inj (List.cons.inj h).2 (by simp)
  obtain ⟨hsecond, h⟩ := List.append_inj (List.cons.inj h).2 (by simp)
  have hfraction := fractionText_injective h
  have hhour := digits_injective (t.hour_lt.trans (by decide)) (t'.hour_lt.trans (by decide)) hhour
  have hminute := digits_injective (t.minute_lt.trans (by decide)) (t'.minute_lt.trans (by decide)) hminute
  have hsecond := digits_injective (t.second_le.trans_lt (by decide)) (t'.second_le.trans_lt (by decide)) hsecond
  cases t
  cases t'
  simp_all

theorem Offset.text_injective {o o' : Offset} (h : o.text = o'.text) : o = o' := by
  obtain ⟨hsign, h⟩ := List.cons.inj h
  obtain ⟨hhour, h⟩ := List.append_inj h (by simp)
  have hminute := digits_injective (o.minute_lt.trans (by decide)) (o'.minute_lt.trans (by decide)) (List.cons.inj h).2
  have hhour := digits_injective (o.hour_lt.trans (by decide)) (o'.hour_lt.trans (by decide)) hhour
  have hwest : o.west = o'.west := by
    revert hsign
    unfold Offset.sign
    cases o.west <;> cases o'.west <;> simp
  cases o
  cases o'
  simp_all

theorem DateTime.text_injective {d d' : DateTime} (h : d.text = d'.text) : d = d' := by
  obtain ⟨hdate, h⟩ := List.append_inj h (by simp [Date.text])
  obtain ⟨htime, hoffset⟩ := List.append_inj' (List.cons.inj h).2 (by simp [Offset.text])
  cases d
  cases d'
  rw [DateTime.mk.injEq]
  exact ⟨Date.text_injective hdate, Time.text_injective htime, Offset.text_injective hoffset⟩

/-! ## Instants -/

/-- The days from the beginning of the era to that of the year. -/
def daysBefore (year : Nat) : Nat := (List.range year).foldl (fun days y => days + if isLeapYear y then 366 else 365) 0

/-- The days of the era before this one. -/
def Date.days (d : Date) : Nat :=
  daysBefore d.year + ((List.range d.month).drop 1).foldl (fun days month => days + daysIn d.year month) 0 + (d.day - 1)

def Offset.minutes (o : Offset) : Int := if o.west then -(60 * o.hour + o.minute : Nat) else (60 * o.hour + o.minute : Nat)

/-- Seconds from the beginning of the era in universal time, fractions aside. -/
def DateTime.seconds (d : DateTime) : Int :=
  86400 * d.date.days + 3600 * d.time.hour + 60 * d.time.minute + d.time.second - 60 * d.offset.minutes

end Boxplot.Lib
