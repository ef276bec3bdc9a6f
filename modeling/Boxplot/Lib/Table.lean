import Boxplot.Lib.OrderedMap
import Mathlib.Tactic
/-!
# Tables and what was last written

Rows under a group and a key within the group, as a database keeps them: an
insertion under a key that is there fails, and `ORDER BY` lists the rows of a
group by their keys, whatever order they were written in. The history of a keyed
collection, newest entry first: what a key has is the record last written for
it, if it was not removed since.
-/

namespace Boxplot.Lib.OrderedMap

variable {G K R : Type} [DecidableEq G] [LinearOrder K] {t t' : OrderedMap (G × K) R} {g : G}

/-- `INSERT`: the primary key must be new. -/
def insert? {K V : Type} [DecidableEq K] (m : OrderedMap K V) (k : K) (v : V) : Option (OrderedMap K V) :=
  if m.has k then none else some (m.set k v)

theorem insert?_eq_some {K V : Type} [DecidableEq K] {m m' : OrderedMap K V} {k : K} {v : V} :
    m.insert? k v = some m' ↔ m.get? k = none ∧ m' = m.set k v := by
  unfold insert? has
  cases hk : m.get? k with
  | none => simp [eq_comm]
  | some w => simp

/-- Deletes the rows of a group. -/
def clear (t : OrderedMap (G × K) R) (g : G) : OrderedMap (G × K) R := t.filter fun key _ => key.1 ≠ g

theorem get?_clear (t : OrderedMap (G × K) R) (g : G) (key : G × K) :
    (t.clear g).get? key = if key.1 = g then none else t.get? key := by
  unfold clear
  rw [get?_filter_key]
  by_cases h : key.1 = g <;> simp [h]

/-! ## Sorting by a key -/

section
variable {α β : Type} {rel : α → β → Prop} {key : α → K} {key' : β → K} {l : List α} {l' : List β}

/-- Lists that correspond, keys and all, correspond when they are sorted. -/
theorem forall₂_insertionSort (hkey : ∀ a b, rel a b → key a = key' b) (h : List.Forall₂ rel l l') :
    List.Forall₂ rel (l.insertionSort (key · ≤ key ·)) (l'.insertionSort (key' · ≤ key' ·)) := by
  induction h with
  | nil => exact .nil
  | @cons a b l l' hab _ ih =>
    rw [List.insertionSort_cons, List.insertionSort_cons]
    -- an element goes where its counterpart goes
    generalize l.insertionSort (key · ≤ key ·) = m at ih
    generalize l'.insertionSort (key' · ≤ key' ·) = m' at ih
    induction ih with
    | nil => exact .cons hab .nil
    | @cons c d m m' hcd hrest ih' =>
      simp only [List.orderedInsert_cons, hkey a b hab, hkey c d hcd]
      split
      · exact .cons hab (.cons hcd hrest)
      · exact .cons hcd ih'

end

/-! ## Rows of a group in the order of their keys -/

/-- `SELECT ... WHERE group = g ORDER BY key`. -/
def select (t : OrderedMap (G × K) R) (g : G) : List (K × R) :=
  ((t.entries.filter (·.1.1 = g)).map fun e => (e.1.2, e.2)).insertionSort (·.1 ≤ ·.1)

theorem mem_select {k : K} {r : R} : (k, r) ∈ t.select g ↔ t.get? (g, k) = some r := by
  rw [get?_eq_some, select, List.mem_insertionSort, List.mem_map]
  constructor
  · rintro ⟨⟨⟨g', k'⟩, r'⟩, he, heq⟩
    have hm := List.mem_filter.1 he
    obtain rfl : g' = g := by simpa using hm.2
    cases heq
    exact hm.1
  · intro h
    exact ⟨((g, k), r), List.mem_filter.2 ⟨h, by simp⟩, rfl⟩

/-- Sorting by distinct keys puts the keys in increasing order. -/
theorem keys_insertionSort {l : List (K × R)} (h : (l.map (·.1)).Nodup) :
    ((l.insertionSort (·.1 ≤ ·.1)).map (·.1)).Pairwise (· < ·) := by
  have hsorted : (l.insertionSort (·.1 ≤ ·.1)).Pairwise (·.1 ≤ ·.1) := List.pairwise_insertionSort _ _
  have hnodup : ((l.insertionSort (·.1 ≤ ·.1)).map (·.1)).Nodup := ((List.perm_insertionSort _ l).map _).nodup_iff.2 h
  rw [List.pairwise_map]
  exact (hsorted.and (List.pairwise_map.1 hnodup)).imp fun h => lt_of_le_of_ne h.1 h.2

/-- The keys come once each, in increasing order. -/
theorem keys_select (t : OrderedMap (G × K) R) (g : G) : ((t.select g).map (·.1)).Pairwise (· < ·) := by
  apply keys_insertionSort
  rw [List.map_map]
  refine (List.Nodup.filter _ (List.Nodup.of_map _ t.nodup)).map_on ?_
  -- two rows of one group with one key are one entry
  rintro ⟨⟨g₁, k₁⟩, r₁⟩ h₁ ⟨⟨g₂, k₂⟩, r₂⟩ h₂ (rfl : k₁ = k₂)
  have hm₁ := List.mem_filter.1 h₁
  have hm₂ := List.mem_filter.1 h₂
  obtain rfl : g₁ = g := by simpa using hm₁.2
  obtain rfl : g₂ = g₁ := by simpa using hm₂.2
  have hr : some r₁ = some r₂ := (get?_eq_some.2 hm₁.1).symm.trans (get?_eq_some.2 hm₂.1)
  rw [Option.some.inj hr]

/-- Rows in increasing order of keys are the selection if they are the rows of the group. -/
theorem eq_select {l : List (K × R)} (hsorted : (l.map (·.1)).Pairwise (· < ·))
    (hmem : ∀ k r, (k, r) ∈ l ↔ t.get? (g, k) = some r) : t.select g = l := by
  have hlt : l.Pairwise (·.1 < ·.1) := List.pairwise_map.1 hsorted
  have hlt' : (t.select g).Pairwise (·.1 < ·.1) := List.pairwise_map.1 (keys_select t g)
  have hperm : (t.select g).Perm l := by
    refine (List.perm_ext_iff_of_nodup ?_ ?_).2 fun e => ?_
    · exact hlt'.imp fun h => fun he => lt_irrefl _ (he ▸ h)
    · exact hlt.imp fun h => fun he => lt_irrefl _ (he ▸ h)
    · exact mem_select.trans (hmem e.1 e.2).symm
  exact hperm.eq_of_pairwise (fun a b _ _ hab hba => absurd (lt_trans hab hba) (lt_irrefl _)) hlt' hlt

/-- A selection depends on the rows of its group only. -/
theorem select_congr (h : ∀ k, t.get? (g, k) = t'.get? (g, k)) : t.select g = t'.select g :=
  eq_select (keys_select t' g) fun k r => by rw [mem_select, h k]

/-! ## Rows written one after the other -/

/-- Inserts rows into a group, each if the table may take it. -/
def insertEach (allowed : OrderedMap (G × K) R → K → R → Bool) (g : G) (t : OrderedMap (G × K) R) (rows : List (K × R)) :
    Option (OrderedMap (G × K) R) :=
  rows.foldlM (fun t e => if allowed t e.1 e.2 then t.insert? (g, e.1) e.2 else none) t

theorem insertEach_cons {allowed : OrderedMap (G × K) R → K → R → Bool} {k : K} {r : R} {rest : List (K × R)} :
    insertEach allowed g t ((k, r) :: rest) = some t' ↔
      allowed t k r = true ∧ t.get? (g, k) = none ∧ insertEach allowed g (t.set (g, k) r) rest = some t' := by
  unfold insertEach
  rw [List.foldlM_cons, Option.bind_eq_bind, Option.bind_eq_some_iff]
  constructor
  · rintro ⟨t₁, h₁, hrest⟩
    split at h₁
    · obtain ⟨hnew, rfl⟩ := insert?_eq_some.1 h₁
      exact ⟨‹_›, hnew, hrest⟩
    · cases h₁
  · rintro ⟨hallowed, hnew, hrest⟩
    exact ⟨_, (if_pos hallowed).trans (insert?_eq_some.2 ⟨hnew, rfl⟩), hrest⟩

/-- After the insertions, of keys that were not there, the group has the new rows too. -/
theorem insertEach_eq_some {allowed : OrderedMap (G × K) R → K → R → Bool} {rows : List (K × R)}
    (h : insertEach allowed g t rows = some t') :
    (rows.map (·.1)).Nodup ∧ (∀ e ∈ rows, t.get? (g, e.1) = none) ∧
      ∀ key r, t'.get? key = some r ↔ t.get? key = some r ∨ key.1 = g ∧ (key.2, r) ∈ rows := by
  induction rows generalizing t with
  | nil =>
    obtain rfl : t = t' := by simpa [insertEach] using h
    simp
  | cons e rest ih =>
    obtain ⟨k, v⟩ := e
    obtain ⟨-, hnew, hrest⟩ := insertEach_cons.1 h
    obtain ⟨hnodup, hfresh, hget⟩ := ih hrest
    -- the later rows have other keys, since the first one's is taken
    have hne : ∀ e ∈ rest, e.1 ≠ k := by
      rintro e he rfl
      simpa using hfresh e he
    refine ⟨?_, ?_, fun key r => ?_⟩
    · refine List.nodup_cons.2 ⟨fun hk => ?_, hnodup⟩
      obtain ⟨e, he, hek⟩ := List.mem_map.1 hk
      exact hne e he hek
    · intro e he
      rcases List.mem_cons.1 he with rfl | he
      · exact hnew
      · rw [← hfresh e he, get?_set_ne _ _ fun h => hne e he (Prod.mk.inj h).2]
    · obtain ⟨g', k'⟩ := key
      rw [hget, get?_set, List.mem_cons]
      by_cases hkey : (g', k') = (g, k)
      · cases hkey
        have hrest' : ∀ r, (k, r) ∉ rest := fun r hr => hne _ hr rfl
        simp [hnew, hrest', eq_comm]
      · have hk : g' = g → k' ≠ k := fun hg hk => hkey (by rw [hg, hk])
        rw [if_neg hkey]
        constructor
        · rintro (h | ⟨hg, hm⟩)
          · exact .inl h
          · exact .inr ⟨hg, .inr hm⟩
        · rintro (h | ⟨hg, hm | hm⟩)
          · exact .inl h
          · exact absurd (Prod.mk.inj hm).1 (hk hg)
          · exact .inr ⟨hg, hm⟩

/-- Keys are new after a row is set if they were, and are not its key. -/
theorem fresh_set {k : K} {r : R} {rows : List (K × R)} : (∀ e ∈ rows, (t.set (g, k) r).get? (g, e.1) = none) ↔
    k ∉ rows.map (·.1) ∧ ∀ e ∈ rows, t.get? (g, e.1) = none := by
  have hkey {e : K × R} (he : e ∈ rows) (hne : k ∉ rows.map (·.1)) : (g, e.1) ≠ (g, k) := fun heq =>
    hne (List.mem_map.2 ⟨e, he, (Prod.mk.inj heq).2⟩)
  constructor
  · intro h
    have hne : k ∉ rows.map (·.1) := fun hmem => by
      obtain ⟨e, he, rfl⟩ := List.mem_map.1 hmem
      simpa using h e he
    exact ⟨hne, fun e he => (get?_set_ne t r (hkey he hne)).symm.trans (h e he)⟩
  · rintro ⟨hne, h⟩ e he
    rw [get?_set_ne t r (hkey he hne), h e he]

/-- Values are new after a row is set under a new key if they were, and are not its value. -/
theorem unused_set {k : K} {r : R} {rows : List (K × R)} (hnew : t.get? (g, k) = none) :
    (∀ e ∈ rows, ∀ k', (t.set (g, k) r).get? (g, k') ≠ some e.2) ↔
      r ∉ rows.map (·.2) ∧ ∀ e ∈ rows, ∀ k', t.get? (g, k') ≠ some e.2 := by
  constructor
  · intro h
    have hne : r ∉ rows.map (·.2) := fun hmem => by
      obtain ⟨e, he, rfl⟩ := List.mem_map.1 hmem
      exact h e he k (get?_set_self t (g, k) e.2)
    refine ⟨hne, fun e he k' hget => ?_⟩
    have hk : (g, k') ≠ (g, k) := fun heq => by rw [heq, hnew] at hget; cases hget
    exact h e he k' ((get?_set_ne t r hk).trans hget)
  · rintro ⟨hne, h⟩ e he k' hget
    rw [get?_set] at hget
    split at hget
    · exact hne (Option.some.inj hget ▸ List.mem_map_of_mem he)
    · exact h e he k' hget

/-- Rows with new keys that pass the check are inserted. -/
theorem insertEach_checked {check : K → R → Bool} {rows : List (K × R)} :
    (∃ t', insertEach (fun _ => check) g t rows = some t') ↔
      (rows.map (·.1)).Nodup ∧ (∀ e ∈ rows, t.get? (g, e.1) = none) ∧ ∀ e ∈ rows, check e.1 e.2 = true := by
  induction rows generalizing t with
  | nil => simp [insertEach]
  | cons e rest ih =>
    obtain ⟨k, r⟩ := e
    simp only [insertEach_cons, exists_and_left, ih, fresh_set, List.map_cons, List.nodup_cons, List.forall_mem_cons]
    tauto

/-- Rows are inserted where each value comes once in a group if theirs do, and are new. -/
theorem insertEach_unique [DecidableEq R] {check : K → R → Bool} {rows : List (K × R)} :
    (∃ t', insertEach (fun t k r => check k r && !((t.select g).map (·.2)).contains r) g t rows = some t') ↔
      ((rows.map (·.1)).Nodup ∧ (∀ e ∈ rows, t.get? (g, e.1) = none) ∧ ∀ e ∈ rows, check e.1 e.2 = true) ∧
        (rows.map (·.2)).Nodup ∧ ∀ e ∈ rows, ∀ k, t.get? (g, k) ≠ some e.2 := by
  induction rows generalizing t with
  | nil => simp [insertEach]
  | cons e rest ih =>
    obtain ⟨k, r⟩ := e
    have hunused : ((t.select g).map (·.2)).contains r = false ↔ ∀ k', t.get? (g, k') ≠ some r := by
      rw [← Bool.not_eq_true, List.contains_iff_mem, List.mem_map]
      constructor
      · exact fun h k' hget => h ⟨(k', r), mem_select.2 hget, rfl⟩
      · rintro h ⟨⟨k', _⟩, hmem, rfl⟩
        exact h k' (mem_select.1 hmem)
    simp only [insertEach_cons, exists_and_left, ih, fresh_set, List.map_cons, List.nodup_cons, List.forall_mem_cons,
      Bool.and_eq_true, Bool.not_eq_true', hunused]
    constructor
    · rintro ⟨⟨hcheck, hvalue⟩, hnew, ⟨hkeys, ⟨hkey, hfresh⟩, hchecks⟩, hvalues, hunusedRest⟩
      obtain ⟨hne, hrest⟩ := (unused_set hnew).1 hunusedRest
      exact ⟨⟨⟨hkey, hkeys⟩, ⟨hnew, hfresh⟩, hcheck, hchecks⟩, ⟨hne, hvalues⟩, hvalue, hrest⟩
    · rintro ⟨⟨⟨hkey, hkeys⟩, ⟨hnew, hfresh⟩, hcheck, hchecks⟩, ⟨hne, hvalues⟩, hvalue, hrest⟩
      exact ⟨⟨hcheck, hvalue⟩, hnew, ⟨hkeys, ⟨hkey, hfresh⟩, hchecks⟩, hvalues, (unused_set hnew).2 ⟨hne, hrest⟩⟩

/-- A cleared group that is filled with rows has these rows, in the order of their keys. -/
theorem select_insertEach {allowed : OrderedMap (G × K) R → K → R → Bool} {rows : List (K × R)}
    (h : insertEach allowed g (t.clear g) rows = some t') : t'.select g = rows.insertionSort (·.1 ≤ ·.1) := by
  obtain ⟨hnodup, -, hget⟩ := insertEach_eq_some h
  refine eq_select (keys_insertionSort hnodup) fun k r => ?_
  rw [List.mem_insertionSort, hget, get?_clear]
  simp

theorem keys_select_insertEach {allowed : OrderedMap (G × K) R → K → R → Bool} {rows : List (K × R)}
    (h : insertEach allowed g (t.clear g) rows = some t') :
    (t'.select g).map (·.1) = (rows.map (·.1)).insertionSort (· ≤ ·) := by
  rw [select_insertEach h]
  exact List.map_insertionSort (fun a b : K × R => a.1 ≤ b.1) (fun a b : K => a ≤ b) Prod.fst rows fun _ _ _ _ => Iff.rfl

/-- The other groups keep their rows. -/
theorem get?_insertEach_of_ne {allowed : OrderedMap (G × K) R → K → R → Bool} {rows : List (K × R)}
    (h : insertEach allowed g t rows = some t') {key : G × K} (hg : key.1 ≠ g) : t'.get? key = t.get? key := by
  ext r
  rw [(insertEach_eq_some h).2.2]
  simp [hg]

end Boxplot.Lib.OrderedMap

namespace Boxplot.Lib

/-! ## Histories -/

inductive JournalEntry (K V : Type)
  | wrote (key : K) (value : V)
  | removed (keys : K → Bool)

variable {K V α : Type} [DecidableEq K]

/-- The record last written for a key and not removed since. -/
def lastWritten : List (JournalEntry K V) → K → Option V
  | [], _ => none
  | .wrote key value :: earlier, k => if k = key then some value else lastWritten earlier k
  | .removed keys :: earlier, k => if keys k then none else lastWritten earlier k

@[simp] theorem lastWritten_nil (k : K) : lastWritten ([] : List (JournalEntry K V)) k = none := rfl

@[simp] theorem lastWritten_wrote (history : List (JournalEntry K V)) (key : K) (value : V) (k : K) :
    lastWritten (.wrote key value :: history) k = if k = key then some value else lastWritten history k := rfl

@[simp] theorem lastWritten_removed (history : List (JournalEntry K V)) (keys : K → Bool) (k : K) :
    lastWritten (.removed keys :: history) k = if keys k then none else lastWritten history k := rfl

end Boxplot.Lib
