import Mathlib.Tactic
/-!
# Fallible computations

Rules for `Except`, and for `EStateM`: what a computation over a state leaves
unchanged, whether it succeeds or fails.
-/

namespace Boxplot.Lib

variable {ε σ α β γ : Type}

/-- A block that succeeds succeeds at each of its steps. -/
theorem except_bind_eq_ok {x : Except ε α} {f : α → Except ε β} {b : β} :
    (x >>= f) = .ok b ↔ ∃ a, x = .ok a ∧ f a = .ok b := by
  cases x with
  | error e => simp [bind, Except.bind]
  | ok a => simp [bind, Except.bind]

theorem toOption_eq_some {x : Except ε α} {a : α} : x.toOption = some a ↔ x = .ok a := by
  cases x <;> simp [Except.toOption]

theorem mapError_eq_ok {f : ε → γ} {x : Except ε α} {a : α} : x.mapError f = .ok a ↔ x = .ok a := by
  cases x <;> simp [Except.mapError]

/-- Each element of a list is related to one of the other. -/
theorem exists_of_forall₂ {R : α → β → Prop} {l : List α} {l' : List β} (h : List.Forall₂ R l l') {a : α} (ha : a ∈ l) :
    ∃ b ∈ l', R a b := by
  induction h with
  | nil => cases ha
  | @cons _ b _ _ hR _ ih =>
    rcases List.mem_cons.1 ha with rfl | ha
    · exact ⟨b, List.mem_cons_self, hR⟩
    · obtain ⟨b', hb', hR'⟩ := ih ha
      exact ⟨b', List.mem_cons_of_mem _ hb', hR'⟩

theorem exists_forall₂ {R : α → β → Prop} {l : List α} (h : ∀ a ∈ l, ∃ b, R a b) : ∃ l', List.Forall₂ R l l' := by
  induction l with
  | nil => exact ⟨[], .nil⟩
  | cons a rest ih =>
    obtain ⟨b, hb⟩ := h a List.mem_cons_self
    obtain ⟨l', hl'⟩ := ih fun c hc => h c (List.mem_cons_of_mem a hc)
    exact ⟨b :: l', .cons hb hl'⟩

/-- A traversal that succeeds succeeds at each element, in order. -/
theorem mapM_eq_ok {f : α → Except ε β} {l : List α} {l' : List β} :
    l.mapM f = .ok l' ↔ List.Forall₂ (fun a b => f a = .ok b) l l' := by
  induction l generalizing l' with
  | nil => cases l' <;> simp [pure, Except.pure]
  | cons a rest ih =>
    rw [List.mapM_cons, except_bind_eq_ok]
    simp only [except_bind_eq_ok, ih]
    constructor
    · rintro ⟨b, hb, rest', hrest, ⟨⟩⟩
      exact .cons hb hrest
    · rintro (_ | ⟨hb, hrest⟩)
      exact ⟨_, hb, _, hrest, rfl⟩

theorem mapM_eq_some_iff {f : α → Option β} {l : List α} {l' : List β} :
    l.mapM f = some l' ↔ List.Forall₂ (fun a b => f a = some b) l l' := by
  induction l generalizing l' with
  | nil => cases l' <;> simp [pure]
  | cons a rest ih =>
    rw [List.mapM_cons, Option.bind_eq_bind, Option.bind_eq_some_iff]
    simp only [Option.bind_eq_bind, Option.bind_eq_some_iff, ih]
    constructor
    · rintro ⟨b, hb, rest', hrest, ⟨⟩⟩
      exact .cons hb hrest
    · rintro (_ | ⟨hb, hrest⟩)
      exact ⟨_, hb, _, hrest, rfl⟩

/-- A traversal that reads every element reads the list. -/
theorem mapM_eq_some {f : α → Option β} {g : α → β} {l : List α} (h : ∀ a ∈ l, f a = some (g a)) : l.mapM f = some (l.map g) := by
  induction l with
  | nil => rfl
  | cons a rest ih =>
    rw [List.mapM_cons, h a List.mem_cons_self, ih fun b hb => h b (List.mem_cons_of_mem a hb)]
    rfl

/-- A loop over checks goes through if each check does. -/
theorem forM_eq_ok {f : α → Except ε Unit} {l : List α} {u : Unit} : l.forM f = .ok u ↔ ∀ a ∈ l, f a = .ok () := by
  induction l with
  | nil => simp [pure, Except.pure]
  | cons a rest ih =>
    change (f a >>= fun _ => rest.forM f) = .ok u ↔ _
    rw [except_bind_eq_ok, List.forall_mem_cons, ← ih]
    constructor
    · rintro ⟨_, ha, hrest⟩
      exact ⟨ha, hrest⟩
    · rintro ⟨ha, hrest⟩
      exact ⟨_, ha, hrest⟩

/-- Each result is of an element. -/
theorem exists_of_mem_mapM {f : α → Except ε β} {l : List α} {l' : List β} (h : l.mapM f = .ok l') {b : β} (hb : b ∈ l') :
    ∃ a ∈ l, f a = .ok b :=
  exists_of_forall₂ (mapM_eq_ok.1 h).flip hb

/-- Each element has a result. -/
theorem mem_mapM_of_mem {f : α → Except ε β} {l : List α} {l' : List β} (h : l.mapM f = .ok l') {a : α} (ha : a ∈ l) :
    ∃ b ∈ l', f a = .ok b :=
  exists_of_forall₂ (mapM_eq_ok.1 h) ha

/-- The state a computation ends in. -/
def finalState : EStateM.Result ε σ α → σ
  | .ok _ s => s
  | .error _ s => s

@[simp] theorem finalState_ok (a : α) (s : σ) : finalState (.ok a s : EStateM.Result ε σ α) = s := rfl
@[simp] theorem finalState_error (e : ε) (s : σ) : finalState (.error e s : EStateM.Result ε σ α) = s := rfl

theorem bind_apply (x : EStateM ε σ α) (f : α → EStateM ε σ β) (s : σ) :
    (x >>= f) s = match x s with
      | .ok a s' => f a s'
      | .error e s' => .error e s' := rfl

theorem bind_ok {x : EStateM ε σ α} {f : α → EStateM ε σ β} {s s' : σ} {a : α} (h : x s = .ok a s') :
    (x >>= f) s = f a s' := by rw [bind_apply, h]

theorem bind_error {x : EStateM ε σ α} {f : α → EStateM ε σ β} {s s' : σ} {e : ε} (h : x s = .error e s') :
    (x >>= f) s = .error e s' := by rw [bind_apply, h]

/-- A `do` block succeeds when both parts do. -/
theorem bind_eq_ok {x : EStateM ε σ α} {f : α → EStateM ε σ β} {s s' : σ} {b : β} :
    (x >>= f) s = .ok b s' ↔ ∃ a t, x s = .ok a t ∧ f a t = .ok b s' := by
  rw [bind_apply]
  cases x s with
  | ok a t => simp
  | error e t => simp

/-- A `do` block fails in its first part or, after that, in its second. -/
theorem bind_eq_error {x : EStateM ε σ α} {f : α → EStateM ε σ β} {s s' : σ} {e : ε} :
    (x >>= f) s = .error e s' ↔ x s = .error e s' ∨ ∃ a t, x s = .ok a t ∧ f a t = .error e s' := by
  rw [bind_apply]
  cases x s with
  | ok a t => simp
  | error e t => simp

theorem tryCatch_apply (x : EStateM ε σ α) (g : ε → EStateM ε σ α) (s : σ) :
    (MonadExcept.tryCatch x g : EStateM ε σ α) s = match x s with
      | .ok a t => .ok a t
      | .error e t => g e t := by
  change EStateM.tryCatch x g s = _
  unfold EStateM.tryCatch
  cases x s <;> rfl

/-! ## What a computation leaves unchanged -/

/-- The part `f` of the state is the same at the end. -/
def Keeps (f : σ → γ) (x : EStateM ε σ α) : Prop := ∀ s, f (finalState (x s)) = f s

variable {f : σ → γ}

theorem Keeps.ok {x : EStateM ε σ α} (h : Keeps f x) {s s' : σ} {a : α} (hx : x s = .ok a s') : f s' = f s := by
  have hs := h s
  rwa [hx] at hs

theorem Keeps.error {x : EStateM ε σ α} (h : Keeps f x) {s s' : σ} {e : ε} (hx : x s = .error e s') : f s' = f s := by
  have hs := h s
  rwa [hx] at hs

theorem keeps_pure (a : α) : Keeps f (pure a : EStateM ε σ α) := fun _ => rfl

theorem keeps_throw (e : ε) : Keeps f (throw e : EStateM ε σ α) := fun _ => rfl

theorem Keeps.bind {x : EStateM ε σ α} {g : α → EStateM ε σ β} (hx : Keeps f x) (hg : ∀ a, Keeps f (g a)) :
    Keeps f (x >>= g) := by
  intro s
  have h := hx s
  rw [bind_apply]
  cases hr : x s with
  | ok a t => rw [hr] at h; exact (hg a t).trans h
  | error e t => rw [hr] at h; exact h

theorem Keeps.tryCatch {x : EStateM ε σ α} {g : ε → EStateM ε σ α} (hx : Keeps f x) (hg : ∀ e, Keeps f (g e)) :
    Keeps f (MonadExcept.tryCatch x g) := by
  intro s
  have h := hx s
  rw [tryCatch_apply]
  cases hr : x s with
  | ok a t => rw [hr] at h; exact h
  | error e t => rw [hr] at h; exact (hg e t).trans h

/-! ## What a computation that succeeds preserves -/

/-- The invariant holds at the end if it held before. -/
def Preserves (I : σ → Prop) (x : EStateM ε σ α) : Prop := ∀ s a s', I s → x s = .ok a s' → I s'

variable {I : σ → Prop}

theorem preserves_throw (e : ε) : Preserves I (throw e : EStateM ε σ α) := fun _ _ _ _ h => by cases h

theorem Preserves.bind {x : EStateM ε σ α} {g : α → EStateM ε σ β} (hx : Preserves I x) (hg : ∀ a, Preserves I (g a)) :
    Preserves I (x >>= g) := by
  intro s b s' hs h
  obtain ⟨a, t, hfirst, hsecond⟩ := bind_eq_ok.1 h
  exact hg a t b s' (hx s a t hs hfirst) hsecond

theorem Preserves.forM_of_mem {x : α → EStateM ε σ PUnit} {l : List α} (h : ∀ a ∈ l, Preserves I (x a)) :
    Preserves I (l.forM x) := by
  induction l with
  | nil => intro s _ s' hs hnil; cases hnil; exact hs
  | cons a rest ih =>
    exact (h a List.mem_cons_self).bind fun _ => ih fun b hb => h b (List.mem_cons_of_mem a hb)

theorem Preserves.forM {x : α → EStateM ε σ PUnit} (h : ∀ a, Preserves I (x a)) (l : List α) : Preserves I (l.forM x) :=
  Preserves.forM_of_mem fun a _ => h a

/-! ## What a computation fails with -/

/-- All errors of the computation are of the kind. -/
def FailsWith (P : ε → Prop) (x : EStateM ε σ α) : Prop := ∀ s e s', x s = .error e s' → P e

variable {P : ε → Prop}

theorem failsWith_pure (a : α) : FailsWith P (pure a : EStateM ε σ α) := fun _ _ _ h => by cases h

theorem failsWith_throw {e : ε} (he : P e) : FailsWith P (throw e : EStateM ε σ α) := by
  rintro s e' s' ⟨⟩
  exact he

theorem FailsWith.bind {x : EStateM ε σ α} {g : α → EStateM ε σ β} (hx : FailsWith P x) (hg : ∀ a, FailsWith P (g a)) :
    FailsWith P (x >>= g) := by
  intro s e s' h
  rcases bind_eq_error.1 h with hfirst | ⟨a, t, -, hsecond⟩
  · exact hx s e s' hfirst
  · exact hg a t e s' hsecond

/-- What the handler makes of the errors counts. -/
theorem FailsWith.tryCatch {Q : ε → Prop} {x : EStateM ε σ α} {g : ε → EStateM ε σ α} (hx : FailsWith Q x)
    (hg : ∀ e, Q e → FailsWith P (g e)) : FailsWith P (MonadExcept.tryCatch x g) := by
  intro s e s' h
  rw [tryCatch_apply] at h
  cases hr : x s with
  | ok a t => rw [hr] at h; cases h
  | error e₁ t =>
    rw [hr] at h
    exact hg e₁ (hx s e₁ t hr) t e s' h

end Boxplot.Lib
