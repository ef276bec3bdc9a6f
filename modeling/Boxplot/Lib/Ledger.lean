import Mathlib.Tactic
/-!
# A ledger of attempts

Workers take turns at one piece of work whose effect must not be repeated by
accident. A worker claims the next attempt, starts the effect, learns how it
ended, and may release the work for another attempt: only when the end was
retryable, or when it was excused from starting at all. `Ledger` is the list of
what happened, oldest first, with the phase it leaves the work in. Nothing in it
says that a worker goes on: one may stop at any point, and the phase stays.
-/

namespace Boxplot.Lib

/-- What happened to the work: by which worker, in which attempt. -/
inductive Entry (R : Type)
  | claimed (worker attempt : Nat)
  | started (worker attempt : Nat)
  | ended (worker attempt : Nat) (result : R)
  | released (worker attempt : Nat)
  | excused (worker : Nat)

namespace Entry

variable {R : Type}

def worker : Entry R → Nat
  | .claimed w _ => w
  | .started w _ => w
  | .ended w _ _ => w
  | .released w _ => w
  | .excused w => w

end Entry

/-- `waiting n`: after `n` attempts, anyone may claim the next one. -/
inductive Phase (R : Type)
  | waiting (attempts : Nat)
  | owned (worker attempt : Nat)
  | running (worker attempt : Nat)
  | finished (worker attempt : Nat) (result : R)

open Entry

variable {R : Type} (retryable : R → Prop)

inductive Ledger : List (Entry R) → Phase R → Prop
  | nil : Ledger [] (.waiting 0)
  | excuse {j p} (w : Nat) : Ledger j p → Ledger (j ++ [excused w]) p
  | claim {j n} (w : Nat) : Ledger j (.waiting n) → Ledger (j ++ [claimed w (n + 1)]) (.owned w (n + 1))
  | start {j w n} : Ledger j (.owned w n) → Ledger (j ++ [started w n]) (.running w n)
  | finish {j w n} (r : R) : Ledger j (.running w n) → Ledger (j ++ [ended w n r]) (.finished w n r)
  | release {j w n r} : Ledger j (.finished w n r) → retryable r → Ledger (j ++ [released w n]) (.waiting n)
  | skip {j w n} : Ledger j (.owned w n) → excused w ∈ j → Ledger (j ++ [released w n]) (.waiting n)

/-! ## What a ledger promises -/

/-- The worker of this attempt learnt of a retryable end and then released the work. -/
def Recorded (w n : Nat) (l : List (Entry R)) : Prop :=
  ∃ r, retryable r ∧ [ended w n r, released w n].Sublist l

/-- Attempt `n` ended retryably and was released, or was released by a worker excused from starting it. -/
def Released (n : Nat) (l : List (Entry R)) : Prop :=
  ∃ w, (∃ r, retryable r ∧ [started w n, ended w n r, released w n].Sublist l) ∨
    ([excused w, released w n].Sublist l ∧ ∀ w', started w' n ∉ l)

/-- The effect is started at most once an attempt, again only after the attempt before it was
released, and never again after an end that is not retryable or not recorded. -/
structure AtMostOnce (j : List (Entry R)) : Prop where
  increasing : ∀ l₁ l₂ l₃ w n w' n', j = l₁ ++ started w n :: (l₂ ++ started w' n' :: l₃) → n < n'
  recorded : ∀ l₁ l₂ l₃ w n w' n', j = l₁ ++ started w n :: (l₂ ++ started w' n' :: l₃) → Recorded retryable w n l₂
  released : ∀ l₁ l₂ w n, j = l₁ ++ started w n :: l₂ → n = 1 ∨ Released retryable (n - 1) l₁
  final : ∀ l₁ l₂ w n r, j = l₁ ++ started w n :: l₂ → ended w n r ∈ l₂ → ¬ retryable r → ∀ w' n', started w' n' ∉ l₂

/-! ## The invariant -/

variable {retryable}

/-- Where a list that ends in `e` has `x`. -/
theorem snoc_split {α : Type} {j l₁ l₂ : List α} {e x : α} (h : j ++ [e] = l₁ ++ x :: l₂) :
    (l₂ = [] ∧ e = x ∧ j = l₁) ∨ ∃ l, l₂ = l ++ [e] ∧ j = l₁ ++ x :: l := by
  rcases List.eq_nil_or_concat l₂ with rfl | ⟨l, y, rfl⟩
  · obtain ⟨hj, he⟩ := List.append_inj' h rfl
    simp only [List.cons.injEq, and_true] at he
    exact .inl ⟨rfl, he, hj⟩
  · rw [List.concat_eq_append] at h ⊢
    have h' : j ++ [e] = (l₁ ++ x :: l) ++ [y] := by simpa using h
    obtain ⟨hj, he⟩ := List.append_inj' h' rfl
    simp only [List.cons.injEq, and_true] at he
    exact .inr ⟨l, by rw [he], hj⟩

theorem Recorded.mono {w n : Nat} {l l' : List (Entry R)} (h : Recorded retryable w n l) (hl : l.Sublist l') :
    Recorded retryable w n l' := by
  obtain ⟨r, hr, hs⟩ := h
  exact ⟨r, hr, hs.trans hl⟩

/-- Only the worker itself can record its attempt. -/
theorem Recorded.of_append {w n : Nat} {l k : List (Entry R)} (hk : ∀ e ∈ k, e.worker ≠ w)
    (h : Recorded retryable w n (l ++ k)) : Recorded retryable w n l := by
  obtain ⟨r, hr, hs⟩ := h
  obtain ⟨a, b, hab, ha, hb⟩ := List.sublist_append_iff.1 hs
  have hnil : b = [] := by
    refine List.eq_nil_iff_forall_not_mem.2 fun e he => hk e (hb.subset he) ?_
    have hmem : e ∈ [ended w n r, released w n] := by rw [hab]; exact List.mem_append_right _ he
    simp only [List.mem_cons, List.not_mem_nil, or_false] at hmem
    rcases hmem with rfl | rfl <;> rfl
  subst hnil
  exact ⟨r, hr, by rwa [hab, List.append_nil]⟩

/-- An entry that starts nothing keeps what was released. -/
theorem Released.snoc {n : Nat} {l : List (Entry R)} {e : Entry R} (h : Released retryable n l)
    (he : ∀ w m, e ≠ started w m) : Released retryable n (l ++ [e]) := by
  obtain ⟨w, ⟨r, hr, hs⟩ | ⟨hs, hn⟩⟩ := h
  · exact ⟨w, .inl ⟨r, hr, hs.trans (List.sublist_append_left _ _)⟩⟩
  · refine ⟨w, .inr ⟨hs.trans (List.sublist_append_left _ _), fun w' hm => ?_⟩⟩
    rcases List.mem_append.1 hm with hm | hm
    · exact hn w' hm
    · exact he w' n (List.mem_singleton.1 hm).symm

variable (retryable)

/-- An earlier attempt: recorded, with retryable ends only. -/
def Past (w n : Nat) (l : List (Entry R)) : Prop :=
  Recorded retryable w n l ∧ ∀ r, ended w n r ∈ l → retryable r

/-- What phase `p` says of an effect started by `w` in attempt `n`, with `l` since. -/
def Phase.accounts (p : Phase R) (w n : Nat) (l : List (Entry R)) : Prop :=
  match p with
  | .waiting m => n ≤ m ∧ Past retryable w n l
  | .owned _ m => n < m ∧ Past retryable w n l
  | .running v m => (w = v ∧ n = m ∧ ∀ r, ended w n r ∉ l) ∨ (n < m ∧ Past retryable w n l)
  | .finished v m r =>
    (w = v ∧ n = m ∧ ended w n r ∈ l ∧ ∀ r', ended w n r' ∈ l → r' = r) ∨ (n < m ∧ Past retryable w n l)

/-- What phase `p` says of the attempt before. -/
def Phase.follows (p : Phase R) (j : List (Entry R)) : Prop :=
  match p with
  | .waiting m => m = 0 ∨ Released retryable m j
  | .owned _ m => m = 1 ∨ Released retryable (m - 1) j
  | .running w m => started w m ∈ j
  | .finished w m r => [started w m, ended w m r].Sublist j

structure Ledger.Holds (j : List (Entry R)) (p : Phase R) : Prop where
  accounts : ∀ l₁ l₂ w n, j = l₁ ++ started w n :: l₂ → p.accounts retryable w n l₂
  follows : p.follows retryable j
  pairs : ∀ l₁ l₂ l₃ w n w' n', j = l₁ ++ started w n :: (l₂ ++ started w' n' :: l₃) →
    n < n' ∧ Recorded retryable w n l₂
  released : ∀ l₁ l₂ w n, j = l₁ ++ started w n :: l₂ → n = 1 ∨ Released retryable (n - 1) l₁

variable {retryable}

/-- A property of every start, with what came before and after it, when one entry is added. -/
theorem starts_snoc {j : List (Entry R)} {e : Entry R} {P : List (Entry R) → List (Entry R) → Nat → Nat → Prop}
    (hold : ∀ l₁ l₂ w n, j = l₁ ++ started w n :: l₂ → P l₁ (l₂ ++ [e]) w n)
    (hnew : ∀ w n, e = started w n → P j [] w n) :
    ∀ l₁ l₂ w n, j ++ [e] = l₁ ++ started w n :: l₂ → P l₁ l₂ w n := by
  intro l₁ l₂ w n h
  rcases snoc_split h with ⟨rfl, he, rfl⟩ | ⟨l, rfl, hj⟩
  · exact hnew w n he
  · exact hold l₁ l w n hj

theorem Past.snoc {w n : Nat} {l : List (Entry R)} {e : Entry R} (h : Past retryable w n l)
    (he : ∀ r, e = ended w n r → retryable r) : Past retryable w n (l ++ [e]) := by
  refine ⟨h.1.mono (List.sublist_append_left _ _), fun r hr => ?_⟩
  rcases List.mem_append.1 hr with hr | hr
  · exact h.2 r hr
  · exact he r (List.mem_singleton.1 hr).symm

/-- An entry that starts nothing adds nothing to what is said of the starts before it. -/
theorem Ledger.Holds.quiet {j : List (Entry R)} {p q : Phase R} {e : Entry R} (h : Ledger.Holds retryable j p)
    (he : ∀ w n, e ≠ started w n) (hf : q.follows retryable (j ++ [e]))
    (ha : ∀ l₁ l₂ w n, j = l₁ ++ started w n :: l₂ → p.accounts retryable w n l₂ → q.accounts retryable w n (l₂ ++ [e])) :
    Ledger.Holds retryable (j ++ [e]) q where
  accounts := starts_snoc (fun l₁ l₂ w n hj => ha l₁ l₂ w n hj (h.accounts l₁ l₂ w n hj)) fun w n hn => absurd hn (he w n)
  follows := hf
  pairs := by
    intro l₁ l₂ l₃ w n w' n' hj
    rcases snoc_split hj with ⟨hnil, -, -⟩ | ⟨l, hl, hj⟩
    · simp at hnil
    · rcases snoc_split hl.symm with ⟨-, hs, -⟩ | ⟨l', -, rfl⟩
      · exact absurd hs (he w' n')
      · exact h.pairs l₁ l₂ l' w n w' n' hj
  released := by
    refine starts_snoc (fun l₁ l₂ w n hj => ?_) (fun w n hn => absurd hn (he w n))
    exact h.released l₁ l₂ w n hj

/-- Every ledger holds what its phase says. -/
theorem Ledger.holds {j : List (Entry R)} {p : Phase R} (h : Ledger retryable j p) : Ledger.Holds retryable j p := by
  induction h with
  | nil => exact ⟨by simp, .inl rfl, by simp, by simp⟩
  | @excuse j p w h ih =>
    refine ih.quiet (by simp) ?_ ?_
    · cases p with
      | waiting m => exact ih.follows.imp id (·.snoc (by simp))
      | owned v m => exact ih.follows.imp id (·.snoc (by simp))
      | running v m => exact List.mem_append_left _ ih.follows
      | finished v m r => exact List.Sublist.trans ih.follows (List.sublist_append_left _ _)
    · intro l₁ l₂ v n _ ha
      cases p with
      | waiting m => exact ⟨ha.1, ha.2.snoc (by simp)⟩
      | owned u m => exact ⟨ha.1, ha.2.snoc (by simp)⟩
      | running u m =>
        rcases ha with ⟨hu, hm, hn⟩ | ⟨hm, hp⟩
        · exact .inl ⟨hu, hm, by simpa using hn⟩
        · exact .inr ⟨hm, hp.snoc (by simp)⟩
      | finished u m r =>
        rcases ha with ⟨hu, hm, he, ha⟩ | ⟨hm, hp⟩
        · exact .inl ⟨hu, hm, by simp [he], by simpa using ha⟩
        · exact .inr ⟨hm, hp.snoc (by simp)⟩
  | @claim j m w h ih =>
    refine ih.quiet (by simp) ?_ fun l₁ l₂ v n _ ha => ⟨by have := ha.1; omega, ha.2.snoc (by simp)⟩
    rcases ih.follows with rfl | hr
    · exact .inl rfl
    · exact .inr (hr.snoc (by simp))
  | @start j w n h ih =>
    refine ⟨?_, List.mem_append_right _ (List.mem_singleton_self _), ?_, ?_⟩
    · refine starts_snoc (fun l₁ l₂ v m hj => ?_) (fun v m he => ?_)
      · have ha := ih.accounts l₁ l₂ v m hj
        exact .inr ⟨ha.1, ha.2.snoc (by simp)⟩
      · cases he; exact .inl ⟨rfl, rfl, by simp⟩
    · intro l₁ l₂ l₃ v m v' m' hj
      rcases snoc_split hj with ⟨hnil, -, -⟩ | ⟨l, hl, hj'⟩
      · simp at hnil
      · rcases snoc_split hl.symm with ⟨-, hs, rfl⟩ | ⟨l', -, rfl⟩
        · cases hs
          have ha := ih.accounts l₁ l v m hj'
          exact ⟨ha.1, ha.2.1⟩
        · exact ih.pairs l₁ l₂ l' v m v' m' hj'
    · refine starts_snoc (fun l₁ l₂ v m hj => ?_) (fun v m he => ?_)
      · exact ih.released l₁ l₂ v m hj
      · cases he; exact ih.follows
  | @finish j w n r h ih =>
    refine ih.quiet (by simp) ?_ fun l₁ l₂ v m _ ha => ?_
    · exact List.Sublist.append (List.singleton_sublist.2 ih.follows) (List.Sublist.refl [ended w n r])
    · rcases ha with ⟨rfl, rfl, hn⟩ | ⟨hm, hp⟩
      · refine .inl ⟨rfl, rfl, by simp, fun r' hr' => ?_⟩
        rcases List.mem_append.1 hr' with hr' | hr'
        · exact absurd hr' (hn r')
        · simpa using hr'
      · exact .inr ⟨hm, hp.snoc fun r' he => by cases he; omega⟩
  | @release j w n r h hr ih =>
    refine ih.quiet (by simp) (.inr ⟨w, .inl ⟨r, hr, ?_⟩⟩) fun l₁ l₂ v m _ ha => ?_
    · exact List.Sublist.append ih.follows (List.Sublist.refl [released w n])
    · rcases ha with ⟨rfl, rfl, he, ha⟩ | ⟨hm, hp⟩
      · refine ⟨le_rfl, ⟨r, hr, ?_⟩, fun r' hr' => ?_⟩
        · exact List.Sublist.append (List.singleton_sublist.2 he) (List.Sublist.refl [released v m])
        · rw [ha r' (by simpa using hr')]; exact hr
      · exact ⟨hm.le, hp.snoc (by simp)⟩
  | @skip j w n h hx ih =>
    refine ih.quiet (by simp) (.inr ⟨w, .inr ⟨?_, fun w' hm => ?_⟩⟩) fun l₁ l₂ v m _ ha => ⟨ha.1.le, ha.2.snoc (by simp)⟩
    · exact List.Sublist.append (List.singleton_sublist.2 hx) (List.Sublist.refl [released w n])
    · obtain ⟨l₁, l₂, hj⟩ := List.append_of_mem (show started w' n ∈ j by simpa using hm)
      exact absurd (ih.accounts l₁ l₂ w' n hj).1 (lt_irrefl n)

/-- A ledger's effects are started at most once an attempt. -/
theorem Ledger.atMostOnce {j : List (Entry R)} {p : Phase R} (h : Ledger retryable j p) : AtMostOnce retryable j where
  increasing l₁ l₂ l₃ w n w' n' hj := (h.holds.pairs l₁ l₂ l₃ w n w' n' hj).1
  recorded l₁ l₂ l₃ w n w' n' hj := (h.holds.pairs l₁ l₂ l₃ w n w' n' hj).2
  released := h.holds.released
  final := by
    intro l₁ l₂ w n r hj he hr w' n' hm
    obtain ⟨a, b, rfl⟩ := List.append_of_mem hm
    have hlt := (h.holds.pairs l₁ a b w n w' n' hj).1
    have hw := h.holds.accounts l₁ (a ++ started w' n' :: b) w n hj
    have hw' := h.holds.accounts (l₁ ++ started w n :: a) b w' n' (by simp [hj])
    cases p with
    | waiting m => exact hr (hw.2.2 r he)
    | owned v m => exact hr (hw.2.2 r he)
    | running v m =>
      rcases hw with ⟨-, -, hn⟩ | ⟨-, hp⟩
      · exact hn r he
      · exact hr (hp.2 r he)
    | finished v m s =>
      rcases hw with ⟨-, rfl, -, -⟩ | ⟨-, hp⟩
      · rcases hw' with ⟨-, hm', -⟩ | ⟨hm', -⟩ <;> omega
      · exact hr (hp.2 r he)

/-- Nothing is started after an attempt that its worker did not record as retryable. -/
theorem AtMostOnce.lost {j l₁ l₂ : List (Entry R)} {w n : Nat} (h : AtMostOnce retryable j)
    (hj : j = l₁ ++ started w n :: l₂) (hn : ¬ Recorded retryable w n l₂) (w' n' : Nat) : started w' n' ∉ l₂ := by
  intro hm
  obtain ⟨a, b, rfl⟩ := List.append_of_mem hm
  exact hn ((h.recorded l₁ a b w n w' n' hj).mono (List.sublist_append_left _ _))

end Boxplot.Lib
