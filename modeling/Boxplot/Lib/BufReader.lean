import Boxplot.Lib.Conn
/-!
# Buffered reads

A reader whose bytes arrive in chunks of any size. `fill_buf` gives what has
arrived and is not read yet, and waits for the next chunk if that is nothing.
Lines and exact reads depend on the bytes only, not on how they arrive: each is
characterised by `rest`, the bytes that are left.
-/

namespace Boxplot.Lib

structure BufReader where
  /-- What has arrived and is not read yet. -/
  buffer : List UInt8
  /-- What the coming reads give. -/
  arrivals : List (List UInt8)
  tail : Tail
  deriving DecidableEq, Repr

inductive ReadFailure
  | failed
  | closed
  | tooLong
  deriving DecidableEq, Repr

namespace BufReader

/-- All bytes that are left. -/
def rest (r : BufReader) : List UInt8 := r.buffer ++ r.arrivals.flatten

def endOf : Tail → ReadFailure
  | .closed => .closed
  | .failed => .failed

/-! ## Bounded lines -/

/-- Adds to `line` what is available up to a line feed; what is left then, if there was one. -/
def extend (limit : Nat) (line available : List UInt8) : Except ReadFailure (List UInt8 × Option (List UInt8)) :=
  let (bytes, after) := takeLine available
  if line.length + bytes.length ≤ limit then .ok (line ++ bytes, after) else .error .tooLong

/-- A line from what is available, and then chunk by chunk. -/
def lineFrom (limit : Nat) (tail : Tail) (line available : List UInt8) :
    List (List UInt8) → Except ReadFailure (List UInt8) × BufReader
  | [] =>
    match extend limit line available with
    | .error e => (.error e, ⟨available, [], tail⟩)
    | .ok (line, some after) => (.ok line, ⟨after, [], tail⟩)
    | .ok (_, none) => (.error (endOf tail), ⟨[], [], tail⟩)
  | chunk :: arrivals =>
    match extend limit line available with
    | .error e => (.error e, ⟨available, chunk :: arrivals, tail⟩)
    | .ok (line, some after) => (.ok line, ⟨after, chunk :: arrivals, tail⟩)
    | .ok (line, none) => lineFrom limit tail line chunk arrivals

/-- A line with its line feed, of at most `limit` bytes. -/
def readLine (limit : Nat) (r : BufReader) : Except ReadFailure (List UInt8) × BufReader :=
  lineFrom limit r.tail [] r.buffer r.arrivals

theorem takeLine_of_line {text after : List UInt8} (h : 10 ∉ text) : takeLine (text ++ 10 :: after) = (text ++ [10], some after) := by
  induction text with
  | nil => simp [takeLine]
  | cons b text ih =>
    simp only [List.mem_cons, not_or] at h
    rw [List.cons_append, takeLine, if_neg (Ne.symm h.1), ih h.2]
    rfl

theorem takeLine_of_none {bs : List UInt8} (h : 10 ∉ bs) : takeLine bs = (bs, none) := by
  induction bs with
  | nil => rfl
  | cons b bs ih =>
    simp only [List.mem_cons, not_or] at h
    rw [takeLine, if_neg (Ne.symm h.1), ih h.2]

/-- What a line is made of. -/
theorem takeLine_eq (bs : List UInt8) : bs = (takeLine bs).1 ++ (takeLine bs).2.getD [] := by
  induction bs with
  | nil => rfl
  | cons b bs ih =>
    unfold takeLine
    split
    · rfl
    · exact congrArg (b :: ·) ih

theorem extend_ok {limit : Nat} {line available line' : List UInt8} {after : Option (List UInt8)}
    (h : extend limit line available = .ok (line', after)) : line ++ available = line' ++ after.getD [] := by
  unfold extend at h
  have hbs := takeLine_eq available
  dsimp only at h
  split at h
  · cases h
    rw [List.append_assoc, ← hbs]
  · cases h

/-- A line that is read is what was there before what is left. -/
theorem lineFrom_ok {limit : Nat} {tail : Tail} {line available read : List UInt8} {arrivals : List (List UInt8)} {r : BufReader}
    (h : lineFrom limit tail line available arrivals = (.ok read, r)) :
    line ++ (available ++ arrivals.flatten) = read ++ r.rest ∧ r.tail = tail := by
  induction arrivals generalizing line available with
  | nil =>
    unfold lineFrom at h
    split at h
    · cases h
    · rename_i line' after he
      cases h
      have hx := extend_ok he
      simp only [rest, List.flatten_nil, List.append_nil, hx, Option.getD_some, and_self]
    · cases h
  | cons chunk arrivals ih =>
    unfold lineFrom at h
    split at h
    · cases h
    · rename_i line' after he
      cases h
      have hx := extend_ok he
      rw [← List.append_assoc, hx, Option.getD_some, List.append_assoc]
      exact ⟨rfl, rfl⟩
    · rename_i line' he
      have hx := extend_ok he
      rw [Option.getD_none, List.append_nil] at hx
      obtain ⟨heq, htail⟩ := ih h
      rw [← List.append_assoc, hx, List.flatten_cons]
      exact ⟨heq, htail⟩

theorem readLine_ok {limit : Nat} {r r' : BufReader} {line : List UInt8} (h : r.readLine limit = (.ok line, r')) :
    r.rest = line ++ r'.rest ∧ r'.tail = r.tail :=
  lineFrom_ok h

theorem extend_of_line {limit : Nat} {line text after : List UInt8} (htext : 10 ∉ text)
    (hlimit : line.length + text.length + 1 ≤ limit) :
    extend limit line (text ++ 10 :: after) = .ok (line ++ text ++ [10], some after) := by
  simp only [extend, takeLine_of_line htext, List.length_append, List.length_singleton]
  rw [if_pos (by omega), List.append_assoc]

theorem extend_of_none {limit : Nat} {line available : List UInt8} (h : 10 ∉ available)
    (hlimit : line.length + available.length ≤ limit) : extend limit line available = .ok (line ++ available, none) := by
  simp only [extend, takeLine_of_none h]
  rw [if_pos hlimit]

/-- A line that is there, and short enough, is read. -/
theorem lineFrom_of_line {limit : Nat} {tail : Tail} {line available text after : List UInt8} {arrivals : List (List UInt8)}
    (h : available ++ arrivals.flatten = text ++ 10 :: after) (htext : 10 ∉ text)
    (hlimit : line.length + text.length + 1 ≤ limit) :
    ∃ r, lineFrom limit tail line available arrivals = (.ok (line ++ text ++ [10]), r) ∧ r.rest = after ∧ r.tail = tail := by
  induction arrivals generalizing line available text with
  | nil =>
    rw [List.flatten_nil, List.append_nil] at h
    subst h
    refine ⟨⟨after, [], tail⟩, ?_, by simp [rest], rfl⟩
    rw [lineFrom, extend_of_line htext hlimit]
  | cons chunk arrivals ih =>
    rw [List.flatten_cons] at h
    -- the line feed is in what is available, or comes later
    by_cases hin : 10 ∈ available
    · obtain ⟨rest', hrest, hafter⟩ : ∃ rest', available = text ++ 10 :: rest' ∧ after = rest' ++ (chunk ++ arrivals.flatten) := by
        rcases List.append_eq_append_iff.1 h with ⟨m, rfl, -⟩ | ⟨m, rfl, hm⟩
        · exact absurd (List.mem_append_left _ hin) htext
        · cases m with
          | nil => exact absurd (by simpa using hin) htext
          | cons b m =>
            obtain ⟨rfl, rfl⟩ := List.cons.inj hm
            exact ⟨m, rfl, rfl⟩
      subst hrest
      refine ⟨⟨rest', chunk :: arrivals, tail⟩, ?_, by simp [rest, hafter], rfl⟩
      rw [lineFrom, extend_of_line htext hlimit]
    · obtain ⟨text', rfl, hrest⟩ : ∃ text', text = available ++ text' ∧ chunk ++ arrivals.flatten = text' ++ 10 :: after := by
        rcases List.append_eq_append_iff.1 h with ⟨m, rfl, hm⟩ | ⟨m, rfl, hm⟩
        · exact ⟨m, rfl, hm⟩
        · cases m with
          | nil => exact ⟨[], by simp, hm.symm⟩
          | cons b m =>
            obtain ⟨rfl, -⟩ := List.cons.inj hm
            exact absurd (by simp) hin
      rw [List.length_append] at hlimit
      obtain ⟨r, hr, hafter, htail⟩ := @ih (line ++ available) chunk text' hrest (fun hm => htext (List.mem_append_right _ hm))
        (by rw [List.length_append]; omega)
      refine ⟨r, ?_, hafter, htail⟩
      rw [lineFrom, extend_of_none hin (by omega)]
      dsimp only
      rw [hr, ← List.append_assoc line]

theorem readLine_of_line {limit : Nat} {r : BufReader} {text after : List UInt8} (h : r.rest = text ++ 10 :: after)
    (htext : 10 ∉ text) (hlimit : text.length + 1 ≤ limit) :
    ∃ r', r.readLine limit = (.ok (text ++ [10]), r') ∧ r'.rest = after ∧ r'.tail = r.tail :=
  lineFrom_of_line h htext (by simpa using hlimit)

/-! ## Exact reads -/

/-- Adds `n` bytes to those that are read, from what is available and then chunk by chunk. -/
def exactFrom (tail : Tail) (read available : List UInt8) (n : Nat) : List (List UInt8) → Except ReadFailure (List UInt8) × BufReader
  | [] =>
    if n ≤ available.length then (.ok (read ++ available.take n), ⟨available.drop n, [], tail⟩)
    else (.error (endOf tail), ⟨[], [], tail⟩)
  | chunk :: arrivals =>
    if n ≤ available.length then (.ok (read ++ available.take n), ⟨available.drop n, chunk :: arrivals, tail⟩)
    else exactFrom tail (read ++ available) chunk (n - available.length) arrivals

def readExact (n : Nat) (r : BufReader) : Except ReadFailure (List UInt8) × BufReader :=
  exactFrom r.tail [] r.buffer n r.arrivals

/-- An exact read takes what comes first, if that much comes at all. -/
theorem exactFrom_spec (tail : Tail) (read available : List UInt8) (n : Nat) (arrivals : List (List UInt8)) :
    (n ≤ (available ++ arrivals.flatten).length ∧ ∃ r, exactFrom tail read available n arrivals =
      (.ok (read ++ (available ++ arrivals.flatten).take n), r) ∧ r.rest = (available ++ arrivals.flatten).drop n ∧ r.tail = tail) ∨
    ∃ e r, exactFrom tail read available n arrivals = (.error e, r) ∧ (available ++ arrivals.flatten).length < n := by
  induction arrivals generalizing read available n with
  | nil =>
    rw [List.flatten_nil, List.append_nil]
    unfold exactFrom
    by_cases hn : n ≤ available.length
    · rw [if_pos hn]
      exact .inl ⟨hn, _, rfl, by simp [rest], rfl⟩
    · rw [if_neg hn]
      exact .inr ⟨_, _, rfl, Nat.lt_of_not_le hn⟩
  | cons chunk arrivals ih =>
    rw [List.flatten_cons]
    unfold exactFrom
    by_cases hn : n ≤ available.length
    · rw [if_pos hn]
      refine .inl ⟨by rw [List.length_append]; omega, _, by rw [List.take_append_of_le_length hn], ?_, rfl⟩
      rw [List.drop_append_of_le_length hn]
      rfl
    · rw [if_neg hn]
      have hle : available.length ≤ n := by omega
      rcases ih (read ++ available) chunk (n - available.length) with ⟨hlen, r, hr, hrest, htail⟩ | ⟨e, r, hr, hlen⟩
      · refine .inl ⟨by rw [List.length_append]; omega, r, ?_, ?_, htail⟩
        · have htake : (available ++ (chunk ++ arrivals.flatten)).take n =
              available ++ (chunk ++ arrivals.flatten).take (n - available.length) := by
            rw [List.take_append, List.take_of_length_le hle]
          rw [hr, htake, List.append_assoc]
        · have hdrop : (available ++ (chunk ++ arrivals.flatten)).drop n =
              (chunk ++ arrivals.flatten).drop (n - available.length) := by
            rw [List.drop_append, List.drop_eq_nil_of_le hle, List.nil_append]
          rw [hrest, hdrop]
      · exact .inr ⟨e, r, hr, by rw [List.length_append]; omega⟩

theorem readExact_ok {n : Nat} {r r' : BufReader} {bytes : List UInt8} (h : r.readExact n = (.ok bytes, r')) :
    r.rest = bytes ++ r'.rest ∧ bytes.length = n ∧ r'.tail = r.tail := by
  rcases exactFrom_spec r.tail [] r.buffer n r.arrivals with ⟨hlen, t, ht, hrest, htail⟩ | ⟨e, t, ht, -⟩
  · rw [readExact, ht] at h
    cases h
    rw [hrest, List.nil_append, List.length_take]
    exact ⟨(List.take_append_drop n _).symm, Nat.min_eq_left hlen, htail⟩
  · rw [readExact, ht] at h
    cases h

/-- Bytes that are there are read. -/
theorem readExact_of_bytes {r : BufReader} {bytes after : List UInt8} (h : r.rest = bytes ++ after) :
    ∃ r', r.readExact bytes.length = (.ok bytes, r') ∧ r'.rest = after ∧ r'.tail = r.tail := by
  have hrest : r.buffer ++ r.arrivals.flatten = bytes ++ after := h
  rcases exactFrom_spec r.tail [] r.buffer bytes.length r.arrivals with ⟨-, t, ht, hdrop, htail⟩ | ⟨e, t, -, hlen⟩
  · refine ⟨t, ?_, ?_, htail⟩
    · rw [readExact, ht, hrest, List.take_left, List.nil_append]
    · rw [hdrop, hrest, List.drop_left]
  · rw [hrest, List.length_append] at hlen
    omega

end BufReader

end Boxplot.Lib
