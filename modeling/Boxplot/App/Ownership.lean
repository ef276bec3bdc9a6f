import Boxplot.App.Lifecycle
/-!
# Who owns a session

Every session that was opened has one owner: a call that is to install or to
close it, the registry, or nobody once it was closed. And every session in the
registry is that of an attempt to connect that nothing superseded. Each kind of
step keeps both.
-/

namespace Boxplot.App

open Domain Lib Remote

/-! ## Who owns a session -/

inductive Owner
  | unopened
  | call (t : Nat)
  | registry (accountKey : AccountKey)
  | closed
  deriving DecidableEq

/-- Every session has one owner: a call that holds it, or the registry, or nobody. -/
structure Owned (sessions : OrderedMap AccountKey ActiveRemoteAccount) (opened : Nat) (closed : List Nat) (n : Nat)
    (σ : Nat → Option AppStage) (owner : Nat → Owner) : Prop where
  unopened : ∀ s, owner s = .unopened ↔ opened ≤ s
  installed : ∀ k e, sessions.get? k = some e → owner e.session.id = .registry k
  registry : ∀ s k, owner s = .registry k → ∃ e, sessions.get? k = some e ∧ e.session.id = s
  once : closed.Nodup
  shut : ∀ s, s ∈ closed ↔ owner s = .closed
  held : ∀ t st, σ t = some st → st.held.Nodup ∧ ∀ s, s ∈ st.held ↔ owner s = .call t
  calls : ∀ s t, owner s = .call t → t < n

namespace Owned

variable {sessions sessions' : OrderedMap AccountKey ActiveRemoteAccount} {opened opened' : Nat} {closed closed' : List Nat} {n : Nat}
  {σ : Nat → Option AppStage} {owner owner' : Nat → Owner} {t : Nat} {st st' : AppStage}

theorem initial : Owned .empty 0 [] 0 (fun _ => none) fun _ => .unopened where
  unopened s := by simp
  installed k e h := by cases h
  registry s k h := by cases h
  once := List.nodup_nil
  shut s := by simp
  held t st h := by cases h
  calls s t h := by cases h

/-- A step of call `t`: what the other calls own stays theirs. -/
theorem move (h : Owned sessions opened closed n σ owner) (hlt : t < n)
    (hothers : ∀ s u, u ≠ t → (owner' s = .call u ↔ owner s = .call u))
    (hmine : st'.held.Nodup ∧ ∀ s, s ∈ st'.held ↔ owner' s = .call t) (hunopened : ∀ s, owner' s = .unopened ↔ opened' ≤ s)
    (hinstalled : ∀ k e, sessions'.get? k = some e → owner' e.session.id = .registry k)
    (hregistry : ∀ s k, owner' s = .registry k → ∃ e, sessions'.get? k = some e ∧ e.session.id = s) (honce : closed'.Nodup)
    (hshut : ∀ s, s ∈ closed' ↔ owner' s = .closed) :
    Owned sessions' opened' closed' n (Function.update σ t (some st')) owner' where
  unopened := hunopened
  installed := hinstalled
  registry := hregistry
  once := honce
  shut := hshut
  held u st'' hu := by
    by_cases hut : u = t
    · subst hut
      rw [Function.update_self, Option.some.injEq] at hu
      subst hu
      exact hmine
    · rw [Function.update_of_ne hut] at hu
      obtain ⟨hnodup, hheld⟩ := h.held u st'' hu
      exact ⟨hnodup, fun s => (hheld s).trans (hothers s u hut).symm⟩
  calls s u hs := by
    by_cases hut : u = t
    · omega
    · exact h.calls s u ((hothers s u hut).1 hs)

/-- A call that holds the same sessions as before. -/
theorem stage (h : Owned sessions opened closed n σ owner) (hlt : t < n) (ht : σ t = some st) (hheld : st'.held = st.held) :
    Owned sessions opened closed n (Function.update σ t (some st')) owner :=
  h.move hlt (fun _ _ _ => Iff.rfl) (by rw [hheld]; exact h.held t st ht) h.unopened h.installed h.registry h.once h.shut

/-- A new call holds nothing. -/
theorem start (h : Owned sessions opened closed n σ owner) : Owned sessions opened closed (n + 1) (Function.update σ n (some .idle)) owner := by
  have hnone (s : Nat) : owner s ≠ .call n := fun hs => absurd (h.calls s n hs) (Nat.lt_irrefl n)
  have hwider : Owned sessions opened closed (n + 1) σ owner := { h with calls := fun s u hs => Nat.lt_succ_of_lt (h.calls s u hs) }
  exact hwider.move (Nat.lt_succ_self n) (fun _ _ _ => Iff.rfl)
    ⟨List.nodup_nil, fun s => iff_of_false List.not_mem_nil (hnone s)⟩ h.unopened h.installed h.registry h.once h.shut

/-- An abandoned call keeps what it holds. -/
theorem crash (h : Owned sessions opened closed n σ owner) (t : Nat) : Owned sessions opened closed n (Function.update σ t none) owner := by
  refine { h with held := fun u st hu => ?_ }
  by_cases hut : u = t
  · subst hut
    rw [Function.update_self] at hu
    cases hu
  · rw [Function.update_of_ne hut] at hu
    exact h.held u st hu

/-- A call opens a session. -/
theorem «open» (h : Owned sessions opened closed n σ owner) (hlt : t < n) (ht : σ t = some st) (hnone : st.held = [])
    (hst' : st'.held = [opened]) :
    Owned sessions (opened + 1) closed n (Function.update σ t (some st')) (Function.update owner opened (.call t)) := by
  have hfresh : owner opened = .unopened := (h.unopened opened).2 (Nat.le_refl _)
  have hmine (s : Nat) : owner s ≠ .call t := by
    intro hs
    have hmem := ((h.held t st ht).2 s).2 hs
    rw [hnone] at hmem
    cases hmem
  refine h.move hlt ?_ ?_ ?_ ?_ ?_ h.once ?_
  · intro s u hut
    by_cases hs : s = opened
    · subst hs
      simp [hfresh, Ne.symm hut]
    · rw [Function.update_of_ne hs]
  · refine ⟨by rw [hst']; exact List.nodup_singleton _, fun s => ?_⟩
    by_cases hs : s = opened
    · subst hs
      simp [hst']
    · rw [hst', Function.update_of_ne hs]
      simp [hs, hmine s]
  · intro s
    by_cases hs : s = opened
    · subst hs
      simp
    · rw [Function.update_of_ne hs, h.unopened]
      omega
  · intro k e he
    have hown := h.installed k e he
    rw [Function.update_of_ne (by rintro hs; rw [hs, hfresh] at hown; cases hown)]
    exact hown
  · intro s k hs
    by_cases hso : s = opened
    · subst hso
      simp at hs
    · rw [Function.update_of_ne hso] at hs
      exact h.registry s k hs
  · intro s
    rw [h.shut]
    by_cases hs : s = opened
    · subst hs
      simp [hfresh]
    · rw [Function.update_of_ne hs]

/-- A call puts the session it holds into the registry, where the account has none. -/
theorem install (h : Owned sessions opened closed n σ owner) (hlt : t < n) (ht : σ t = some st) {k : AccountKey}
    {e : ActiveRemoteAccount} (hheld : st.held = [e.session.id]) (hfree : sessions.get? k = none) (hst' : st'.held = []) :
    Owned (sessions.set k e) opened closed n (Function.update σ t (some st')) (Function.update owner e.session.id (.registry k)) := by
  have hown : owner e.session.id = .call t := ((h.held t st ht).2 _).1 (by rw [hheld]; exact List.mem_singleton_self _)
  have hmine (s : Nat) (hs : s ≠ e.session.id) : owner s ≠ .call t := by
    intro hs'
    have hmem := ((h.held t st ht).2 s).2 hs'
    rw [hheld, List.mem_singleton] at hmem
    exact hs hmem
  refine h.move hlt ?_ ?_ ?_ ?_ ?_ h.once ?_
  · intro s u hut
    by_cases hs : s = e.session.id
    · subst hs
      simp [hown, Ne.symm hut]
    · rw [Function.update_of_ne hs]
  · refine ⟨by rw [hst']; exact List.nodup_nil, fun s => ?_⟩
    rw [hst']
    by_cases hs : s = e.session.id
    · subst hs
      simp
    · rw [Function.update_of_ne hs]
      simp [hmine s hs]
  · intro s
    rw [← h.unopened]
    by_cases hs : s = e.session.id
    · subst hs
      simp [hown]
    · rw [Function.update_of_ne hs]
  · intro k' e' he'
    by_cases hk : k' = k
    · subst hk
      rw [OrderedMap.get?_set_self, Option.some.injEq] at he'
      subst he'
      exact Function.update_self ..
    · rw [OrderedMap.get?_set_ne _ _ hk] at he'
      have hown' := h.installed k' e' he'
      rw [Function.update_of_ne (by rintro hs; rw [hs, hown] at hown'; cases hown')]
      exact hown'
  · intro s k' hs
    by_cases hse : s = e.session.id
    · subst hse
      rw [Function.update_self] at hs
      cases hs
      exact ⟨e, OrderedMap.get?_set_self _ _ _, rfl⟩
    · rw [Function.update_of_ne hse] at hs
      obtain ⟨e', he', hid⟩ := h.registry s k' hs
      have hk : k' ≠ k := by
        rintro rfl
        rw [hfree] at he'
        cases he'
      exact ⟨e', by rw [OrderedMap.get?_set_ne _ _ hk]; exact he', hid⟩
  · intro s
    rw [h.shut]
    by_cases hs : s = e.session.id
    · subst hs
      simp [hown]
    · rw [Function.update_of_ne hs]

/-- A call closes sessions it holds. -/
theorem close (h : Owned sessions opened closed n σ owner) (hlt : t < n) (ht : σ t = some st) {l : List Nat} (hl : l.Nodup)
    (hsub : ∀ s ∈ l, s ∈ st.held) (hst' : st'.held.Nodup ∧ ∀ s, s ∈ st'.held ↔ s ∈ st.held ∧ s ∉ l) :
    Owned sessions opened (closed ++ l) n (Function.update σ t (some st')) (fun s => if s ∈ l then .closed else owner s) := by
  have hown (s : Nat) (hs : s ∈ l) : owner s = .call t := ((h.held t st ht).2 s).1 (hsub s hs)
  refine h.move hlt ?_ ?_ ?_ ?_ ?_ ?_ ?_
  · intro s u hut
    by_cases hs : s ∈ l
    · simp [hs, hown s hs, Ne.symm hut]
    · rw [if_neg hs]
  · refine ⟨hst'.1, fun s => ?_⟩
    rw [hst'.2, (h.held t st ht).2]
    by_cases hs : s ∈ l <;> simp [hs]
  · intro s
    rw [← h.unopened]
    by_cases hs : s ∈ l
    · simp [hs, hown s hs]
    · rw [if_neg hs]
  · intro k e he
    have hreg := h.installed k e he
    rw [if_neg (fun hs => by rw [hown _ hs] at hreg; cases hreg)]
    exact hreg
  · intro s k hs
    by_cases hsl : s ∈ l
    · rw [if_pos hsl] at hs
      cases hs
    · rw [if_neg hsl] at hs
      exact h.registry s k hs
  · refine List.nodup_append.2 ⟨h.once, hl, ?_⟩
    rintro s hs s' hs' rfl
    have hclosed := (h.shut s).1 hs
    rw [hown s hs'] at hclosed
    cases hclosed
  · intro s
    rw [List.mem_append, h.shut]
    by_cases hs : s ∈ l <;> simp [hs]

/-- A call takes sessions from the registry. -/
theorem take (h : Owned sessions opened closed n σ owner) (hlt : t < n) (ht : σ t = some st) (hnone : st.held = [])
    {taken : AccountKey → Bool} (hsessions : ∀ k, sessions'.get? k = if taken k then none else sessions.get? k)
    (hst' : st'.held.Nodup) (hmem : ∀ s, s ∈ st'.held ↔ ∃ k e, taken k = true ∧ sessions.get? k = some e ∧ e.session.id = s) :
    Owned sessions' opened closed n (Function.update σ t (some st')) (fun s => if s ∈ st'.held then .call t else owner s) := by
  have hown (s : Nat) (hs : s ∈ st'.held) : ∃ k, taken k = true ∧ owner s = .registry k := by
    obtain ⟨k, e, htaken, he, rfl⟩ := (hmem s).1 hs
    exact ⟨k, htaken, h.installed k e he⟩
  have hmine (s : Nat) : owner s ≠ .call t := by
    intro hs
    have hmem := ((h.held t st ht).2 s).2 hs
    rw [hnone] at hmem
    cases hmem
  refine h.move hlt ?_ ⟨hst', fun s => ?_⟩ ?_ ?_ ?_ h.once ?_
  · intro s u hut
    by_cases hs : s ∈ st'.held
    · obtain ⟨k, -, hreg⟩ := hown s hs
      simp [hs, hreg, Ne.symm hut]
    · rw [if_neg hs]
  · by_cases hs : s ∈ st'.held <;> simp [hs, hmine s]
  · intro s
    rw [← h.unopened]
    by_cases hs : s ∈ st'.held
    · obtain ⟨k, -, hreg⟩ := hown s hs
      simp [hs, hreg]
    · rw [if_neg hs]
  · intro k e he
    rw [hsessions] at he
    split at he
    · cases he
    · rename_i hk
      have hreg := h.installed k e he
      rw [if_neg (fun hs => ?_)]
      · exact hreg
      · obtain ⟨k', hk', hreg'⟩ := hown _ hs
        rw [hreg] at hreg'
        cases hreg'
        exact hk hk'
  · intro s k hs
    by_cases hsm : s ∈ st'.held
    · rw [if_pos hsm] at hs
      cases hs
    · rw [if_neg hsm] at hs
      obtain ⟨e, he, hid⟩ := h.registry s k hs
      refine ⟨e, ?_, hid⟩
      rw [hsessions, if_neg]
      · exact he
      · exact fun hk => hsm ((hmem s).2 ⟨k, e, hk, he, hid⟩)
  · intro s
    rw [h.shut]
    by_cases hs : s ∈ st'.held
    · obtain ⟨k, -, hreg⟩ := hown s hs
      simp [hs, hreg]
    · rw [if_neg hs]

end Owned

/-! ## Attempts to connect -/

/-- The attempts that began: which of them may still install a session, and which one installed the session there is. -/
structure Attempts (s : AppState) (opened : List Nat) (begun : List (Nat × AccountKey × Nat)) (superseded : List Nat) (n : Nat)
    (σ : Nat → Option AppStage) : Prop where
  pending : ∀ k g, s.pendingConnects.get? k = some g → s.sessions.get? k = none
  disposed : s.disposed = true → ∀ k, s.sessions.get? k = none ∧ s.pendingConnects.get? k = none
  keys : ∀ k e, s.sessions.get? k = some e → e.accountKey = k ∧ ∃ t, opened[e.session.id]? = some t ∧ (t, k, e.generation) ∈ begun
  stages : ∀ t st b, σ t = some st → st.attempt = some b → (t, b) ∈ begun ∧ ∀ s ∈ st.held, opened[s]? = some t
  known : ∀ b ∈ begun, b.1 < n ∧ (∃ g, s.generations.get? b.2.1 = some g ∧ b.2.2 ≤ g) ∧
    ∀ st, σ b.1 = some st → st.attempt = some b.2
  once : ∀ b ∈ begun, ∀ b' ∈ begun, b.1 = b'.1 → b = b'
  late : ∀ t ∈ superseded, (∃ b ∈ begun, b.1 = t) ∧ ∀ k g, (t, k, g) ∈ begun →
    s.pendingConnects.get? k ≠ some g ∧ ∀ e, s.sessions.get? k = some e → e.generation ≠ g

namespace Attempts

variable {s s' : AppState} {opened : List Nat} {begun : List (Nat × AccountKey × Nat)} {superseded superseded' : List Nat} {n : Nat}
  {σ : Nat → Option AppStage} {t : Nat} {st st' : AppStage}

theorem initial : Attempts .initial [] [] [] 0 fun _ => none where
  pending k g h := by cases h
  disposed h := by cases h
  keys k e h := by cases h
  stages t st b h := by cases h
  known b h := by cases h
  once b h := by cases h
  late t h := by cases h

/-- The stage of call `t` changes, and stays one of the same attempt. -/
theorem stage (h : Attempts s opened begun superseded n σ) (ht : σ t = some st) (hattempt : st'.attempt = st.attempt)
    (hheld : ∀ b, st.attempt = some b → ∀ x ∈ st'.held, opened[x]? = some t) :
    Attempts s opened begun superseded n (Function.update σ t (some st')) := by
  refine { h with stages := fun u st'' b hu hb => ?_, known := fun b hb => ?_ }
  · by_cases hut : u = t
    · subst hut
      rw [Function.update_self, Option.some.injEq] at hu
      subst hu
      rw [hattempt] at hb
      exact ⟨(h.stages u st b ht hb).1, hheld b hb⟩
    · rw [Function.update_of_ne hut] at hu
      exact h.stages u st'' b hu hb
  · obtain ⟨hlt, hgen, hst⟩ := h.known b hb
    refine ⟨hlt, hgen, fun st'' hu => ?_⟩
    by_cases hut : b.1 = t
    · rw [hut, Function.update_self, Option.some.injEq] at hu
      rw [← hu, hattempt]
      exact hst st (hut ▸ ht)
    · rw [Function.update_of_ne hut] at hu
      exact hst st'' hu

/-- Sessions and attempts only go away, and generations grow. -/
theorem shrink (h : Attempts s opened begun superseded n σ) (hsessions : ∀ k e, s'.sessions.get? k = some e → s.sessions.get? k = some e)
    (hpending : ∀ k g, s'.pendingConnects.get? k = some g → s.pendingConnects.get? k = some g)
    (hgenerations : AppState.GenerationsGrow s s')
    (hdisposed : s'.disposed = true → s.disposed = true ∨ ∀ k, s'.sessions.get? k = none ∧ s'.pendingConnects.get? k = none)
    (hsuperseded : ∀ t ∈ superseded', t ∈ superseded ∨ (∃ b ∈ begun, b.1 = t) ∧ ∀ k g, (t, k, g) ∈ begun →
      s'.sessions.get? k = none ∧ s'.pendingConnects.get? k = none) : Attempts s' opened begun superseded' n σ where
  pending k g hk := by
    have hnone := h.pending k g (hpending k g hk)
    cases hs : s'.sessions.get? k with
    | none => rfl
    | some e =>
      rw [hsessions k e hs] at hnone
      cases hnone
  disposed hd k := by
    rcases hdisposed hd with hd | hnone
    · obtain ⟨hs, hp⟩ := h.disposed hd k
      refine ⟨?_, ?_⟩
      · cases hs' : s'.sessions.get? k with
        | none => rfl
        | some e => rw [hsessions k e hs'] at hs; cases hs
      · cases hp' : s'.pendingConnects.get? k with
        | none => rfl
        | some g => rw [hpending k g hp'] at hp; cases hp
    · exact hnone k
  keys k e he := h.keys k e (hsessions k e he)
  stages := h.stages
  known b hb := by
    obtain ⟨hlt, ⟨g, hg, hle⟩, hst⟩ := h.known b hb
    obtain ⟨g', hg', hle'⟩ := hgenerations b.2.1 g hg
    exact ⟨hlt, ⟨g', hg', hle.trans hle'⟩, hst⟩
  once := h.once
  late t ht := by
    rcases hsuperseded t ht with ht | ⟨hbegun, hnone⟩
    · obtain ⟨hbegun, hlost⟩ := h.late t ht
      refine ⟨hbegun, fun k g hb => ?_⟩
      obtain ⟨hp, he⟩ := hlost k g hb
      exact ⟨fun hk => hp (hpending k g hk), fun e hs => he e (hsessions k e hs)⟩
    · refine ⟨hbegun, fun k g hb => ?_⟩
      obtain ⟨hs, hp⟩ := hnone k g hb
      exact ⟨by rw [hp]; simp, fun e he => by rw [hs] at he; cases he⟩

/-- Only the statuses change. -/
theorem alike (h : Attempts s opened begun superseded n σ) (ha : s.Alike s') : Attempts s' opened begun superseded n σ := by
  refine h.shrink ?_ ?_ ?_ ?_ fun _ ht => .inl ht
  · rw [ha.sessions]
    exact fun _ _ he => he
  · rw [ha.pendingConnects]
    exact fun _ _ hg => hg
  · intro k g hg
    rw [ha.generations]
    exact ⟨g, hg, Nat.le_refl _⟩
  · rw [ha.disposed]
    exact .inl

/-- A new call has not begun to connect. -/
theorem start (h : Attempts s opened begun superseded n σ) : Attempts s opened begun superseded (n + 1) (Function.update σ n (some .idle)) := by
  refine { h with stages := fun u st b hu hb => ?_, known := fun b hb => ?_ }
  · by_cases hun : u = n
    · subst hun
      rw [Function.update_self, Option.some.injEq] at hu
      subst hu
      cases hb
    · rw [Function.update_of_ne hun] at hu
      exact h.stages u st b hu hb
  · obtain ⟨hlt, hgen, hst⟩ := h.known b hb
    refine ⟨Nat.lt_succ_of_lt hlt, hgen, fun st hu => ?_⟩
    rw [Function.update_of_ne (Nat.ne_of_lt hlt)] at hu
    exact hst st hu

theorem crash (h : Attempts s opened begun superseded n σ) (t : Nat) :
    Attempts s opened begun superseded n (Function.update σ t none) := by
  refine { h with stages := fun u st b hu hb => ?_, known := fun b hb => ?_ }
  · by_cases hut : u = t
    · subst hut
      rw [Function.update_self] at hu
      cases hu
    · rw [Function.update_of_ne hut] at hu
      exact h.stages u st b hu hb
  · obtain ⟨hlt, hgen, hst⟩ := h.known b hb
    refine ⟨hlt, hgen, fun st hu => ?_⟩
    by_cases hut : b.1 = t
    · rw [hut, Function.update_self] at hu
      cases hu
    · rw [Function.update_of_ne hut] at hu
      exact hst st hu

/-- A call begins an attempt, with a generation that is new. -/
theorem begin (h : Attempts s opened begun superseded n σ) (hlt : t < n) (ht : σ t = some st) (hidle : st = .idle) {k : AccountKey} {g : Nat}
    (hd : s.disposed = false) (hfree : s.sessions.get? k = none) (hg : g = (s.generations.get? k).getD 0 + 1)
    (ha : AppState.Alike { s with pendingConnects := s.pendingConnects.set k g, generations := s.generations.set k g } s') :
    Attempts s' opened ((t, k, g) :: begun) superseded n (Function.update σ t (some ⟨some (k, g), []⟩)) := by
  have hnot (b : Nat × AccountKey × Nat) (hb : b ∈ begun) : b.1 ≠ t := by
    rintro rfl
    have hst := (h.known b hb).2.2 st ht
    rw [hidle] at hst
    cases hst
  have hgrow : AppState.GenerationsGrow s s' := AppState.generationsGrow_set s k (by omega) ha.generations
  have hnew (b : Nat × AccountKey × Nat) (hb : b ∈ begun) (hk : b.2.1 = k) : b.2.2 < g := by
    obtain ⟨-, ⟨g', hg', hle⟩, -⟩ := h.known b hb
    rw [hk] at hg'
    rw [hg', Option.getD_some] at hg
    omega
  constructor
  · intro k' g' hk'
    rw [ha.pendingConnects, OrderedMap.get?_set] at hk'
    rw [ha.sessions]
    split at hk'
    · rename_i hk
      rw [hk]
      exact hfree
    · exact h.pending k' g' hk'
  · intro hd'
    rw [ha.disposed] at hd'
    rw [hd] at hd'
    cases hd'
  · intro k' e he
    rw [ha.sessions] at he
    obtain ⟨hkey, u, hu, hb⟩ := h.keys k' e he
    exact ⟨hkey, u, hu, List.mem_cons_of_mem _ hb⟩
  · intro u st' b hu hb
    by_cases hut : u = t
    · subst hut
      rw [Function.update_self, Option.some.injEq] at hu
      subst hu
      cases hb
      exact ⟨List.mem_cons_self, fun _ hx => by cases hx⟩
    · rw [Function.update_of_ne hut] at hu
      obtain ⟨hmem, hheld⟩ := h.stages u st' b hu hb
      exact ⟨List.mem_cons_of_mem _ hmem, hheld⟩
  · intro b hb
    rcases List.mem_cons.1 hb with rfl | hb
    · refine ⟨hlt, ⟨g, by rw [ha.generations]; exact OrderedMap.get?_set_self _ _ _, Nat.le_refl _⟩, fun st' hu => ?_⟩
      rw [Function.update_self, Option.some.injEq] at hu
      rw [← hu]
    · obtain ⟨hlt', ⟨g', hg', hle⟩, hst⟩ := h.known b hb
      obtain ⟨g'', hg'', hle'⟩ := hgrow b.2.1 g' hg'
      refine ⟨hlt', ⟨g'', hg'', hle.trans hle'⟩, fun st' hu => ?_⟩
      rw [Function.update_of_ne (hnot b hb)] at hu
      exact hst st' hu
  · intro b hb b' hb' heq
    rcases List.mem_cons.1 hb with rfl | hb
    · rcases List.mem_cons.1 hb' with rfl | hb'
      · rfl
      · exact absurd heq.symm (hnot b' hb')
    · rcases List.mem_cons.1 hb' with rfl | hb'
      · exact absurd heq (hnot b hb)
      · exact h.once b hb b' hb' heq
  · intro u hu
    obtain ⟨⟨b, hb, hbu⟩, hlost⟩ := h.late u hu
    refine ⟨⟨b, List.mem_cons_of_mem _ hb, hbu⟩, fun k' g' hmem => ?_⟩
    rw [ha.pendingConnects, ha.sessions, OrderedMap.get?_set]
    rcases List.mem_cons.1 hmem with heq | hmem
    · -- the call had not begun, so nothing came after it
      cases heq
      exact absurd hbu (hnot b hb)
    · obtain ⟨hp, he⟩ := hlost k' g' hmem
      refine ⟨?_, he⟩
      split
      · rename_i hk
        have hlt' := hnew _ hmem hk
        intro hgg
        cases hgg
        exact Nat.lt_irrefl _ hlt'
      · exact hp

/-- A call opens a session for its attempt. -/
theorem «open» (h : Attempts s opened begun superseded n σ) (ht : σ t = some st) (hst' : st' = { st with held := [opened.length] }) :
    Attempts s (opened ++ [t]) begun superseded n (Function.update σ t (some st')) := by
  have hopened (x u : Nat) (hx : opened[x]? = some u) : (opened ++ [t])[x]? = some u := by
    rw [List.getElem?_append_left (List.getElem?_eq_some_iff.1 hx).1]
    exact hx
  have hwider : Attempts s (opened ++ [t]) begun superseded n σ := by
    refine { h with keys := fun k e he => ?_, stages := fun u st b hu hb => ?_ }
    · obtain ⟨hkey, u, hu, hb⟩ := h.keys k e he
      exact ⟨hkey, u, hopened _ _ hu, hb⟩
    · obtain ⟨hmem, hheld⟩ := h.stages u st b hu hb
      exact ⟨hmem, fun x hx => hopened _ _ (hheld x hx)⟩
  refine hwider.stage ht (by rw [hst']) fun b _ x hx => ?_
  rw [hst', List.mem_singleton] at hx
  rw [hx, List.getElem?_append_right (Nat.le_refl _), Nat.sub_self]
  rfl

/-- A call whose attempt has authority installs the session it opened. -/
theorem install (h : Attempts s opened begun superseded n σ) {e : ActiveRemoteAccount}
    (ht : σ t = some ⟨some (e.accountKey, e.generation), [e.session.id]⟩)
    (hauthority : s.hasConnectAuthority e.accountKey e.generation = true)
    (ha : AppState.Alike { s with sessions := s.sessions.set e.accountKey e
                                  pendingConnects := s.pendingConnects.delete e.accountKey } s') :
    Attempts s' opened begun superseded n (Function.update σ t (some ⟨some (e.accountKey, e.generation), []⟩)) := by
  obtain ⟨hd, hg, hp⟩ := AppState.hasConnectAuthority_iff.1 hauthority
  obtain ⟨hmem, hheld⟩ := h.stages t _ _ ht rfl
  have hpending (k : AccountKey) (g : Nat) (hk : s'.pendingConnects.get? k = some g) :
      k ≠ e.accountKey ∧ s.pendingConnects.get? k = some g := by
    rw [ha.pendingConnects, OrderedMap.get?_delete] at hk
    split at hk
    · cases hk
    · rename_i hne
      exact ⟨hne, hk⟩
  have hinstalled : Attempts s' opened begun superseded n σ := by
    refine { h with pending := fun k g hk => ?_, disposed := fun hd' => ?_, keys := fun k e' he' => ?_, known := fun b hb => ?_,
                    late := fun u hu => ?_ }
    · obtain ⟨hne, hk⟩ := hpending k g hk
      rw [ha.sessions, OrderedMap.get?_set_ne _ _ hne]
      exact h.pending k g hk
    · rw [ha.disposed] at hd'
      rw [hd] at hd'
      cases hd'
    · rw [ha.sessions, OrderedMap.get?_set] at he'
      split at he'
      · rename_i hk
        cases he'
        exact ⟨hk.symm, t, hheld _ (List.mem_singleton_self _), hk ▸ hmem⟩
      · exact h.keys k e' he'
    · rw [ha.generations]
      exact h.known b hb
    · obtain ⟨hbegun, hlost⟩ := h.late u hu
      refine ⟨hbegun, fun k g hb => ?_⟩
      obtain ⟨hp', he'⟩ := hlost k g hb
      refine ⟨fun hk => hp' (hpending k g hk).2, fun e' hs => ?_⟩
      rw [ha.sessions, OrderedMap.get?_set] at hs
      split at hs
      · rename_i hk
        cases hs
        -- a superseded attempt has no authority
        rintro rfl
        exact hp' (hk ▸ hp)
      · exact he' e' hs
  exact hinstalled.stage ht rfl fun _ _ x hx => by cases hx

end Attempts

end Boxplot.App
