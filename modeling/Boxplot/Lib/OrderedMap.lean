import Mathlib.Tactic
/-!
# Maps that remember insertion order

The entries in the order their keys were first set, each key once: what a
JavaScript `Map` is. Setting a key that is there keeps its place.
-/

namespace Boxplot.Lib

structure OrderedMap (K V : Type) where
  entries : List (K × V)
  nodup : (entries.map (·.1)).Nodup

namespace OrderedMap

variable {K V : Type} [DecidableEq K]

/-- The entries after setting a key. -/
def setEntries (entries : List (K × V)) (k : K) (v : V) : List (K × V) :=
  match entries with
  | [] => [(k, v)]
  | (k', v') :: rest => if k' = k then (k, v) :: rest else (k', v') :: setEntries rest k v

theorem keys_setEntries (entries : List (K × V)) (k : K) (v : V) :
    (setEntries entries k v).map (·.1) = if k ∈ entries.map (·.1) then entries.map (·.1) else entries.map (·.1) ++ [k] := by
  induction entries with
  | nil => simp [setEntries]
  | cons e rest ih =>
    unfold setEntries
    by_cases h : e.1 = k
    · simp [h]
    · simp only [h, if_false, List.map_cons, ih, List.mem_cons, Ne.symm h, false_or]
      split <;> simp

theorem lookup_cons_ite (e : K × V) (rest : List (K × V)) (k : K) :
    (e :: rest).lookup k = if k = e.1 then some e.2 else rest.lookup k := by
  obtain ⟨k', v⟩ := e
  by_cases h : k = k'
  · simp [h]
  · have hne : (k == k') = false := by simpa using h
    simp [List.lookup_cons, hne, h]

theorem lookup_setEntries (entries : List (K × V)) (k k' : K) (v : V) :
    (setEntries entries k v).lookup k' = if k' = k then some v else entries.lookup k' := by
  induction entries with
  | nil => simp only [setEntries, lookup_cons_ite]
  | cons e rest ih =>
    unfold setEntries
    by_cases h : e.1 = k
    · simp only [h, if_true, lookup_cons_ite]
      split <;> rfl
    · simp only [h, if_false, lookup_cons_ite, ih]
      by_cases hk : k' = e.1
      · simp [hk, h]
      · simp [hk]

def empty : OrderedMap K V := ⟨[], List.nodup_nil⟩

def get? (m : OrderedMap K V) (k : K) : Option V := m.entries.lookup k

def has (m : OrderedMap K V) (k : K) : Bool := (m.get? k).isSome

def set (m : OrderedMap K V) (k : K) (v : V) : OrderedMap K V where
  entries := setEntries m.entries k v
  nodup := by
    rw [keys_setEntries]
    split
    · exact m.nodup
    · rename_i h
      exact List.nodup_append.2 ⟨m.nodup, List.nodup_singleton k, by rintro a ha b hb rfl; simp_all⟩

/-- Keeps the entries `p` holds of. -/
def filter (m : OrderedMap K V) (p : K → V → Bool) : OrderedMap K V where
  entries := m.entries.filter fun e => p e.1 e.2
  nodup := (List.filter_sublist.map _).nodup m.nodup

def delete (m : OrderedMap K V) (k : K) : OrderedMap K V := m.filter fun k' _ => k' ≠ k

def values (m : OrderedMap K V) : List V := m.entries.map (·.2)

/-! ## Reading back -/

@[simp] theorem get?_empty (k : K) : (empty : OrderedMap K V).get? k = none := rfl

theorem get?_set (m : OrderedMap K V) (k k' : K) (v : V) : (m.set k v).get? k' = if k' = k then some v else m.get? k' :=
  lookup_setEntries m.entries k k' v

@[simp] theorem get?_set_self (m : OrderedMap K V) (k : K) (v : V) : (m.set k v).get? k = some v := by
  simp [get?_set]

@[simp] theorem has_set_self (m : OrderedMap K V) (k : K) (v : V) : (m.set k v).has k = true := by
  simp [has]

theorem get?_set_ne (m : OrderedMap K V) {k k' : K} (v : V) (h : k' ≠ k) : (m.set k v).get? k' = m.get? k' := by
  simp [get?_set, h]

theorem get?_eq_some {m : OrderedMap K V} {k : K} {v : V} : m.get? k = some v ↔ (k, v) ∈ m.entries := by
  obtain ⟨entries, nodup⟩ := m
  unfold get?
  induction entries with
  | nil => simp
  | cons e rest ih =>
    simp only [List.map_cons, List.nodup_cons] at nodup
    obtain ⟨k', v'⟩ := e
    rw [lookup_cons_ite]
    by_cases h : k = k'
    · subst h
      simp only [if_true, Option.some.injEq, List.mem_cons, Prod.mk.injEq, true_and]
      constructor
      · rintro rfl; exact .inl rfl
      · rintro (rfl | hm)
        · rfl
        · exact absurd (List.mem_map_of_mem hm) nodup.1
    · simpa [h] using ih nodup.2

theorem get?_filter (m : OrderedMap K V) (p : K → V → Bool) (k : K) :
    (m.filter p).get? k = (m.get? k).filter (p k) := by
  ext v
  rw [get?_eq_some, Option.filter_eq_some_iff, get?_eq_some]
  simp [filter]

/-- A filter that looks at the keys only. -/
theorem get?_filter_key (m : OrderedMap K V) (p : K → Bool) (k : K) :
    (m.filter fun k _ => p k).get? k = if p k then m.get? k else none := by
  rw [get?_filter]
  cases h : p k <;> cases m.get? k <;> simp [Option.filter]

theorem get?_delete (m : OrderedMap K V) (k k' : K) : (m.delete k).get? k' = if k' = k then none else m.get? k' := by
  unfold delete
  rw [get?_filter_key]
  by_cases h : k' = k <;> simp [h]

theorem mem_values {m : OrderedMap K V} {v : V} : v ∈ m.values ↔ ∃ k, m.get? k = some v := by
  simp [values, get?_eq_some]

/-! ## Other keys -/

section

variable {L : Type} [DecidableEq L] (f : K ↪ L) (m : OrderedMap K V)

/-- The same entries, under keys that tell the keys apart. -/
def mapKeys : OrderedMap L V where
  entries := m.entries.map fun e => (f e.1, e.2)
  nodup := by
    rw [List.map_map]
    have hkeys : ((fun e : L × V => e.1) ∘ fun e : K × V => (f e.1, e.2)) = f ∘ fun e => e.1 := rfl
    rw [hkeys, ← List.map_map]
    exact m.nodup.map f.injective

@[simp] theorem get?_mapKeys (k : K) : (m.mapKeys f).get? (f k) = m.get? k := by
  have hentries : ∀ entries : List (K × V), (entries.map fun e => (f e.1, e.2)).lookup (f k) = entries.lookup k := by
    intro entries
    induction entries with
    | nil => rfl
    | cons e rest ih =>
      rw [List.map_cons, lookup_cons_ite, lookup_cons_ite, ih]
      simp only [f.injective.eq_iff]
  exact hentries m.entries

theorem mapKeys_set (k : K) (v : V) : (m.set k v).mapKeys f = (m.mapKeys f).set (f k) v := by
  have hentries : ∀ entries : List (K × V), (setEntries entries k v).map (fun e => (f e.1, e.2)) =
      setEntries (entries.map fun e => (f e.1, e.2)) (f k) v := by
    intro entries
    induction entries with
    | nil => rfl
    | cons e rest ih =>
      rw [setEntries, List.map_cons, setEntries]
      by_cases h : e.1 = k
      · simp [h]
      · simp [h, f.injective.eq_iff, ih]
  unfold mapKeys set
  congr 1
  exact hentries m.entries

theorem mapKeys_delete (k : K) : (m.delete k).mapKeys f = (m.mapKeys f).delete (f k) := by
  unfold mapKeys delete filter
  congr 1
  rw [List.filter_map]
  simp [Function.comp_def, f.injective.eq_iff]

end

/-! ## Many keys -/

/-- Sets one key after the other. -/
def setAll {α : Type} (m : OrderedMap K V) (key : α → K) (value : α → V) (items : List α) : OrderedMap K V :=
  items.foldl (fun m a => m.set (key a) (value a)) m

theorem get?_setAll_of_notMem {α : Type} (m : OrderedMap K V) {key : α → K} (value : α → V) {items : List α} {k : K}
    (h : k ∉ items.map key) : (m.setAll key value items).get? k = m.get? k := by
  unfold setAll
  induction items generalizing m with
  | nil => rfl
  | cons a rest ih =>
    simp only [List.map_cons, List.mem_cons, not_or] at h
    rw [List.foldl_cons, ih _ h.2, get?_set_ne _ _ h.1]

theorem get?_setAll_of_mem {α : Type} (m : OrderedMap K V) {key : α → K} (value : α → V) {items : List α} {a : α}
    (hn : (items.map key).Nodup) (h : a ∈ items) : (m.setAll key value items).get? (key a) = some (value a) := by
  induction items generalizing m with
  | nil => cases h
  | cons b rest ih =>
    simp only [List.map_cons, List.nodup_cons] at hn
    rcases List.mem_cons.1 h with rfl | hm
    · exact (get?_setAll_of_notMem (m.set (key a) (value a)) value hn.1).trans (get?_set_self _ _ _)
    · exact ih _ hn.2 hm

/-- Deletes one key after the other. -/
def deleteAll (m : OrderedMap K V) (keys : List K) : OrderedMap K V := keys.foldl delete m

theorem get?_deleteAll (m : OrderedMap K V) (keys : List K) (k : K) :
    (m.deleteAll keys).get? k = if k ∈ keys then none else m.get? k := by
  unfold deleteAll
  induction keys generalizing m with
  | nil => rfl
  | cons k' rest ih =>
    rw [List.foldl_cons, ih, get?_delete]
    by_cases h : k = k' <;> by_cases hr : k ∈ rest <;> simp [h, hr]

/-! ## What holds of every entry -/

def Holds (P : K → V → Prop) (m : OrderedMap K V) : Prop := ∀ k v, m.get? k = some v → P k v

section
variable {P : K → V → Prop} {m : OrderedMap K V}

theorem holds_empty : (empty : OrderedMap K V).Holds P := by
  intro k v h
  cases h

theorem Holds.set (h : m.Holds P) {k : K} {v : V} (hv : P k v) : (m.set k v).Holds P := by
  intro k' v' h'
  rw [get?_set] at h'
  split at h'
  · rename_i hk
    cases h'
    exact hk ▸ hv
  · exact h k' v' h'

theorem Holds.filter (h : m.Holds P) (p : K → V → Bool) : (m.filter p).Holds P := by
  intro k v hv
  rw [get?_filter] at hv
  exact h k v (Option.filter_eq_some_iff.1 hv).1

theorem Holds.delete (h : m.Holds P) (k : K) : (m.delete k).Holds P := h.filter _

theorem Holds.deleteAll (h : m.Holds P) (keys : List K) : (m.deleteAll keys).Holds P := by
  unfold OrderedMap.deleteAll
  induction keys generalizing m with
  | nil => exact h
  | cons k rest ih => exact ih (h.delete k)

theorem Holds.setAll {α : Type} (h : m.Holds P) {key : α → K} {value : α → V} {items : List α}
    (hi : ∀ a ∈ items, P (key a) (value a)) : (m.setAll key value items).Holds P := by
  unfold OrderedMap.setAll
  induction items generalizing m with
  | nil => exact h
  | cons a rest ih => exact ih (h.set (hi a List.mem_cons_self)) fun b hb => hi b (List.mem_cons_of_mem a hb)

end

/-! ## Agreement on some keys -/

/-- The same entries, in the same order, under the keys that `q` holds of. -/
def AgreeOn (q : K → Bool) (m m' : OrderedMap K V) : Prop := (m'.entries.filter fun e => q e.1) = m.entries.filter fun e => q e.1

section
variable {q : K → Bool} {m m' m'' : OrderedMap K V}

omit [DecidableEq K] in
theorem AgreeOn.refl (q : K → Bool) (m : OrderedMap K V) : AgreeOn q m m := rfl

omit [DecidableEq K] in
theorem AgreeOn.trans (h : AgreeOn q m m') (h' : AgreeOn q m' m'') : AgreeOn q m m'' := Eq.trans h' h

theorem filter_setEntries (entries : List (K × V)) {k : K} (v : V) (hk : q k = false) :
    ((setEntries entries k v).filter fun e => q e.1) = entries.filter fun e => q e.1 := by
  induction entries with
  | nil => simp [setEntries, hk]
  | cons e rest ih =>
    unfold setEntries
    by_cases h : e.1 = k
    · simp [h, hk]
    · simp only [h, if_false, List.filter_cons, ih]

theorem agreeOn_set (m : OrderedMap K V) {k : K} (v : V) (hk : q k = false) : AgreeOn q m (m.set k v) :=
  filter_setEntries m.entries v hk

theorem agreeOn_filter {p : K → V → Bool} (h : m.Holds fun k v => q k = true → p k v = true) : AgreeOn q m (m.filter p) := by
  unfold AgreeOn OrderedMap.filter
  simp only [List.filter_filter]
  apply List.filter_congr
  intro e he
  cases hq : q e.1 with
  | false => rfl
  | true => simpa using h e.1 e.2 (get?_eq_some.2 he) hq

theorem agreeOn_delete (m : OrderedMap K V) {k : K} (hk : q k = false) : AgreeOn q m (m.delete k) := by
  apply agreeOn_filter
  intro k' v _ hq
  simp only [decide_eq_true_eq]
  rintro rfl
  rw [hk] at hq
  cases hq

theorem agreeOn_deleteAll (m : OrderedMap K V) {keys : List K} (h : ∀ k ∈ keys, q k = false) : AgreeOn q m (m.deleteAll keys) := by
  unfold OrderedMap.deleteAll
  induction keys generalizing m with
  | nil => rfl
  | cons k rest ih =>
    exact (agreeOn_delete m (h k List.mem_cons_self)).trans (ih _ fun k' hk' => h k' (List.mem_cons_of_mem k hk'))

theorem agreeOn_setAll {α : Type} (m : OrderedMap K V) {key : α → K} (value : α → V) {items : List α}
    (h : ∀ a ∈ items, q (key a) = false) : AgreeOn q m (m.setAll key value items) := by
  unfold OrderedMap.setAll
  induction items generalizing m with
  | nil => rfl
  | cons a rest ih =>
    exact (agreeOn_set m _ (h a List.mem_cons_self)).trans (ih _ fun b hb => h b (List.mem_cons_of_mem a hb))

theorem AgreeOn.get?_eq (h : AgreeOn q m m') {k : K} (hk : q k = true) : m'.get? k = m.get? k := by
  ext v
  have hmem : ∀ m : OrderedMap K V, m.get? k = some v ↔ (k, v) ∈ m.entries.filter fun e => q e.1 := by
    intro m
    rw [get?_eq_some, List.mem_filter]
    simp [hk]
  rw [hmem, hmem, h]

/-- The values picked by a predicate that says the same as `q` of their keys. -/
theorem AgreeOn.values_filter {p : V → Bool} (h : AgreeOn q m m') (hm : m.Holds fun k v => p v = q k)
    (hm' : m'.Holds fun k v => p v = q k) : m'.values.filter p = m.values.filter p := by
  have hpick : ∀ {m : OrderedMap K V}, (m.Holds fun k v => p v = q k) →
      m.values.filter p = (m.entries.filter fun e => q e.1).map (·.2) := by
    intro m hm
    unfold values
    rw [List.filter_map]
    congr 1
    apply List.filter_congr
    intro e he
    exact hm e.1 e.2 (get?_eq_some.2 he)
  rw [hpick hm, hpick hm', h]

omit [DecidableEq K] in
theorem AgreeOn.mono {q' : K → Bool} (h : AgreeOn q m m') (hq : ∀ k, q' k = true → q k = true) : AgreeOn q' m m' := by
  have hfilter : ∀ m : OrderedMap K V,
      (m.entries.filter fun e => q' e.1) = (m.entries.filter fun e => q e.1).filter fun e => q' e.1 := by
    intro m
    rw [List.filter_filter]
    apply List.filter_congr
    intro e _
    cases hq' : q' e.1 with
    | false => rfl
    | true => simp [hq _ hq']
  unfold AgreeOn
  rw [hfilter m, hfilter m', h]

end

end OrderedMap

end Boxplot.Lib
