import Boxplot.Lib.Async
/-!
# Histories of interleaved programs

Programs that share nothing, run by turns: whoever answers them decides the
order and every reply, and may leave any of them for good. An `Interleaving`
keeps the history of their requests and replies, and nothing else, so what a
program did can depend on its own replies only.

`Interleaving.sound` is about one run: a program that keeps a contract over its
own history keeps it among others. `Interleaving.alike` is about two runs:
programs that make alike requests while they get alike replies do so whatever
they are interleaved with.
-/

namespace Boxplot.Lib

variable {E : Type} {R : E → Type} {α β γ δ X : Type}

/-- The request a program waits for. -/
def Prog.next : Prog E R α → Option E
  | .pure _ => none
  | .await e _ => some e

/-- A request of a thread, and its reply. -/
structure Event (E : Type) (R : E → Type) where
  thread : Nat
  request : E
  reply : R request

/-- After the history `h`, the programs `P` have come to `P'`. -/
inductive Interleaving (P : Nat → Prog E R α) : List (Event E R) → (Nat → Prog E R α) → Prop
  | nil : Interleaving P [] P
  | snoc {h : List (Event E R)} {P' : Nat → Prog E R α} {t : Nat} {e : E} {k : R e → Prog E R α} (r : R e) :
      Interleaving P h P' → P' t = .await e k → Interleaving P (h ++ [⟨t, e, r⟩]) (Function.update P' t (k r))

/-- The same, where a world answers: after the history `h` it is `w`. -/
inductive Serving {W : Type} (perform : W → (e : E) → R e → W → Prop) (P : Nat → Prog E R α) (w₀ : W) :
    List (Event E R) → (Nat → Prog E R α) → W → Prop
  | nil : Serving perform P w₀ [] P w₀
  | snoc {h : List (Event E R)} {P' : Nat → Prog E R α} {w w' : W} {t : Nat} {e : E} {k : R e → Prog E R α} {r : R e} :
      Serving perform P w₀ h P' w → P' t = .await e k → perform w e r w' →
      Serving perform P w₀ (h ++ [⟨t, e, r⟩]) (Function.update P' t (k r)) w'

/-- One more request of a thread. -/
theorem Serving.next {W : Type} {perform : W → (e : E) → R e → W → Prop} {P P' : Nat → Prog E R α} {w₀ w : W}
    {h : List (Event E R)} (hs : Serving perform P w₀ h P' w) (t : Nat) {e : E} {k : R e → Prog E R α} (ht : P' t = .await e k)
    (r : R e) (w' : W) (ha : perform w e r w') :
    Serving perform P w₀ (h ++ [⟨t, e, r⟩]) (Function.update P' t (k r)) w' :=
  .snoc hs ht ha

/-- What lies in a history that has grown, with its last event or without. -/
theorem sublist_snoc {γ : Type} {l h : List γ} {a v : γ} :
    (l ++ [a]).Sublist (h ++ [v]) ↔ (l ++ [a]).Sublist h ∨ a = v ∧ l.Sublist h := by
  constructor
  · intro hs
    obtain ⟨l₁, l₂, hl, h₁, h₂⟩ := List.sublist_append_iff.1 hs
    rcases List.sublist_singleton.1 h₂ with rfl | rfl
    · rw [List.append_nil] at hl
      exact Or.inl (hl ▸ h₁)
    · obtain ⟨rfl, ha⟩ := List.append_inj' hl rfl
      exact Or.inr ⟨List.singleton_inj.1 ha, h₁⟩
  · rintro (hs | ⟨rfl, hs⟩)
    · exact hs.trans (List.sublist_append_left h [v])
    · exact hs.append (List.Sublist.refl _)

/-- The requests and replies of one thread. -/
def own (t : Nat) (h : List (Event E R)) : List (Sigma R) :=
  h.filterMap fun v => if v.thread = t then some ⟨v.request, v.reply⟩ else none

@[simp] theorem own_nil (t : Nat) : own t ([] : List (Event E R)) = [] := rfl

theorem own_snoc (t : Nat) (h : List (Event E R)) (v : Event E R) :
    own t (h ++ [v]) = if v.thread = t then own t h ++ [⟨v.request, v.reply⟩] else own t h := by
  by_cases ht : v.thread = t <;> simp [own, List.filterMap_append, ht]

theorem mem_own {t : Nat} {h : List (Event E R)} {e : E} {r : R e} : ⟨e, r⟩ ∈ own t h ↔ ⟨t, e, r⟩ ∈ h := by
  simp only [own, List.mem_filterMap]
  constructor
  · rintro ⟨⟨u, e', r'⟩, hv, hs⟩
    by_cases hu : u = t
    · subst hu
      obtain ⟨rfl, hr⟩ := by simpa using hs
      cases hr; exact hv
    · simp [hu] at hs
  · exact fun hv => ⟨_, hv, by simp⟩

/-- Answers a program's requests from a list, as long as the list asks what the program asks. -/
def Prog.feed [DecidableEq E] : Prog E R α → List (Sigma R) → Option (Prog E R α)
  | p, [] => some p
  | .await e k, ⟨e', r⟩ :: rest => if h : e' = e then (k (h ▸ r)).feed rest else none
  | .pure _, _ :: _ => none

/-- One thread may be fed alone. -/
theorem Interleaving.fed [DecidableEq E] {P P' : Nat → Prog E R α} {h : List (Event E R)} (hi : Interleaving P h P') {t : Nat}
    {l : List (Sigma R)} {p : Prog E R α} (hp : (P' t).feed l = some p) :
    Interleaving P (h ++ l.map fun a => ⟨t, a.1, a.2⟩) (Function.update P' t p) := by
  induction l generalizing P' h with
  | nil =>
    simp only [Prog.feed, Option.some.injEq] at hp
    simpa [← hp] using hi
  | cons a rest ih =>
    obtain ⟨e', r⟩ := a
    cases hk : P' t with
    | pure x => simp [hk, Prog.feed] at hp
    | await e k =>
      rw [hk] at hp
      simp only [Prog.feed] at hp
      split at hp
      · rename_i he
        subst he
        have hrest := ih (hi.snoc r hk) (by simpa using hp)
        simpa using hrest
      · cases hp

/-! ## One run -/

/-- What a program may request after its own history, answered as `answers` says. -/
def historyContract (may : List (Sigma R) → E → Prop) (answers : (e : E) → R e → Prop) : Contract E R (List (Sigma R)) where
  may := may
  step s e r s' := answers e r ∧ s' = s ++ [⟨e, r⟩]

/-- Threads that keep a contract over their own histories keep it in any interleaving. -/
theorem Interleaving.sound {may : List (Sigma R) → E → Prop} {answers : (e : E) → R e → Prop} {P P' : Nat → Prog E R α}
    {h : List (Event E R)} (hi : Interleaving P h P')
    (hP : ∀ t, (historyContract may answers).wp (P t) (fun _ _ => True) []) (ha : ∀ v ∈ h, answers v.request v.reply) (t : Nat) :
    (historyContract may answers).wp (P' t) (fun _ _ => True) (own t h) := by
  induction hi generalizing t with
  | nil => exact hP t
  | @snoc h P' u e k r _ hu ih =>
    have hrest := ih fun v hv => ha v (List.mem_append_left _ hv)
    have hr : answers e r := ha ⟨u, e, r⟩ (by simp)
    by_cases htu : t = u
    · subst htu
      have hwp := hrest t
      rw [hu] at hwp
      simpa [own_snoc] using hwp.2 r _ ⟨hr, rfl⟩
    · rw [Function.update_of_ne htu, own_snoc, if_neg (Ne.symm htu)]
      exact hrest t

/-- A thread that waits for a request was allowed to make it. -/
theorem Interleaving.may_next {may : List (Sigma R) → E → Prop} {answers : (e : E) → R e → Prop} {P P' : Nat → Prog E R α}
    {h : List (Event E R)} (hi : Interleaving P h P')
    (hP : ∀ t, (historyContract may answers).wp (P t) (fun _ _ => True) []) (ha : ∀ v ∈ h, answers v.request v.reply) {t : Nat}
    {e : E} (ht : (P' t).next = some e) : may (own t h) e := by
  have hwp := hi.sound hP ha t
  cases hp : P' t with
  | pure a => rw [hp] at ht; cases ht
  | await e' k =>
    rw [hp] at ht hwp
    obtain rfl : e' = e := Option.some.inj ht
    exact hwp.1

/-! ## Two runs -/

/-- When two requests are alike, and when the replies to two alike requests are. -/
structure Coupling (E : Type) (R : E → Type) where
  requests : E → E → Prop
  replies : (e e' : E) → R e → R e' → Prop

/-- While they get alike replies, the programs make alike requests, and they end with `Q`. -/
def Alike (K : Coupling E R) (Q : α → β → Prop) : Prog E R α → Prog E R β → Prop
  | .pure a, .pure b => Q a b
  | .await e k, .await e' k' => K.requests e e' ∧ ∀ r r', K.replies e e' r r' → Alike K Q (k r) (k' r')
  | _, _ => False

namespace Alike

variable {K : Coupling E R}

theorem bind {Q : α → β → Prop} {Q' : γ → δ → Prop} {f : α → Prog E R γ} {f' : β → Prog E R δ} {p : Prog E R α}
    {p' : Prog E R β} (hp : Alike K Q p p') (hf : ∀ a b, Q a b → Alike K Q' (f a) (f' b)) :
    Alike K Q' (p.bind f) (p'.bind f') := by
  induction p generalizing p' with
  | pure a =>
    cases p' with
    | pure b => exact hf a b hp
    | await e' k' => exact hp.elim
  | await e k ih =>
    cases p' with
    | pure b => exact hp.elim
    | await e' k' => exact ⟨hp.1, fun r r' hr => ih r (hp.2 r r' hr)⟩

theorem next {Q : α → β → Prop} {p : Prog E R α} {p' : Prog E R β} (h : Alike K Q p p') :
    Option.Rel K.requests p.next p'.next := by
  cases p with
  | pure a =>
    cases p' with
    | pure b => exact .none
    | await e' k' => exact h.elim
  | await e k =>
    cases p' with
    | pure b => exact h.elim
    | await e' k' => exact .some h.1

end Alike

/-- The same exception, or values with `Q`. -/
def SameOutcome (Q : α → β → Prop) : Except X α → Except X β → Prop
  | .ok a, .ok b => Q a b
  | .error x, .error y => x = y
  | _, _ => False

@[simp] theorem sameOutcome_ok (Q : α → β → Prop) (a : α) (b : β) :
    SameOutcome Q (.ok a : Except X α) (.ok b) ↔ Q a b := Iff.rfl

@[simp] theorem sameOutcome_error (Q : α → β → Prop) (x y : X) : SameOutcome Q (.error x) (.error y) ↔ x = y := Iff.rfl

/-- `Alike` of two async functions. -/
abbrev AlikeA (K : Coupling E R) (Q : α → β → Prop) (p : Async E R X α) (p' : Async E R X β) : Prop :=
  Alike K (SameOutcome Q) p.run p'.run

namespace AlikeA

variable {K : Coupling E R} {Q : α → β → Prop}

theorem pure {a : α} {b : β} (h : Q a b) : AlikeA K Q (Pure.pure a : Async E R X α) (Pure.pure b : Async E R X β) := h

theorem throw (x : X) : AlikeA K Q (MonadExcept.throw x : Async E R X α) (MonadExcept.throw x : Async E R X β) := rfl

theorem lift {r : Except X α} {r' : Except X β} (h : SameOutcome Q r r') : AlikeA K Q (Async.lift r) (Async.lift r') := h

theorem call {e e' : E} {Q : R e → R e' → Prop} (h : K.requests e e') (hQ : ∀ r r', K.replies e e' r r' → Q r r') :
    AlikeA K Q (Async.call e : Async E R X (R e)) (Async.call e') :=
  ⟨h, hQ⟩

theorem bind {Q' : γ → δ → Prop} {p : Async E R X α} {p' : Async E R X β} {f : α → Async E R X γ} {f' : β → Async E R X δ}
    (hp : AlikeA K Q p p') (hf : ∀ a b, Q a b → AlikeA K Q' (f a) (f' b)) : AlikeA K Q' (p >>= f) (p' >>= f') := by
  refine Alike.bind hp fun r r' hr => ?_
  cases r with
  | ok a =>
    cases r' with
    | ok b => exact hf a b hr
    | error y => exact hr.elim
  | error x =>
    cases r' with
    | ok b => exact hr.elim
    | error y => exact hr

theorem tryCatch {p : Async E R X α} {p' : Async E R X β} {g : X → Async E R X α} {g' : X → Async E R X β}
    (hp : AlikeA K Q p p') (hg : ∀ x, AlikeA K Q (g x) (g' x)) :
    AlikeA K Q (MonadExcept.tryCatch p g) (MonadExcept.tryCatch p' g') := by
  refine Alike.bind hp fun r r' hr => ?_
  cases r with
  | ok a =>
    cases r' with
    | ok b => exact hr
    | error y => exact hr.elim
  | error x =>
    cases r' with
    | ok b => exact hr.elim
    | error y => cases hr; exact hg x

end AlikeA

/-- Two events of the same thread, whose replies are alike if the requests are. -/
def SameAnswer (K : Coupling E R) (v v' : Event E R) : Prop :=
  v.thread = v'.thread ∧ (K.requests v.request v'.request → K.replies _ _ v.reply v'.reply)

theorem Interleaving.snoc_inv {P P'' : Nat → Prog E R α} {h : List (Event E R)} {v : Event E R}
    (hi : Interleaving P (h ++ [v]) P'') : ∃ P' k, Interleaving P h P' ∧ P' v.thread = .await v.request k ∧
      P'' = Function.update P' v.thread (k v.reply) := by
  generalize hl : h ++ [v] = l at hi
  cases hi with
  | nil => simp at hl
  | @snoc h' P' t e k r hi hk =>
    obtain ⟨rfl, rfl⟩ : h = h' ∧ v = ⟨t, e, r⟩ := by simpa using List.append_inj' hl rfl
    exact ⟨P', k, hi, hk, rfl⟩

theorem forall₂_snoc_left {γ δ : Type} {S : γ → δ → Prop} {l : List γ} {a : γ} {l' : List δ} (h : List.Forall₂ S (l ++ [a]) l') :
    ∃ k b, l' = k ++ [b] ∧ List.Forall₂ S l k ∧ S a b := by
  rw [← List.forall₂_reverse_iff, List.reverse_append, List.reverse_singleton, List.singleton_append,
    List.forall₂_cons_left_iff] at h
  obtain ⟨b, k, hb, hk, hl⟩ := h
  refine ⟨k.reverse, b, ?_, by rwa [← List.forall₂_reverse_iff, List.reverse_reverse], hb⟩
  rw [← l'.reverse_reverse, hl, List.reverse_cons]

/-- Alike programs, taken in the same order and given alike replies, have made alike requests and go on alike. -/
theorem Interleaving.alike {K : Coupling E R} {Q : α → β → Prop} {P₁ P₁' : Nat → Prog E R α} {P₂ P₂' : Nat → Prog E R β}
    {h₁ h₂ : List (Event E R)} (hP : ∀ t, Alike K Q (P₁ t) (P₂ t)) (hi₁ : Interleaving P₁ h₁ P₁')
    (hi₂ : Interleaving P₂ h₂ P₂') (hh : List.Forall₂ (SameAnswer K) h₁ h₂) :
    List.Forall₂ (fun v v' => K.requests v.request v'.request) h₁ h₂ ∧ ∀ t, Alike K Q (P₁' t) (P₂' t) := by
  induction hi₁ generalizing h₂ P₂' with
  | nil =>
    cases hh
    generalize hl : ([] : List (Event E R)) = l at hi₂
    cases hi₂ with
    | nil => exact ⟨.nil, hP⟩
    | snoc r _ _ => simp at hl
  | @snoc h P' t e k r hi hk ih =>
    obtain ⟨h', v, rfl, hh', rfl, hv⟩ := forall₂_snoc_left hh
    obtain ⟨P'', k', hi', hk', rfl⟩ := hi₂.snoc_inv
    obtain ⟨hreq, hrest⟩ := ih hi' hh'
    -- the two threads were at alike requests, so the replies are alike too
    have ht := hrest v.thread
    rw [hk, hk'] at ht
    refine ⟨List.rel_append hreq (.cons ht.1 .nil), fun u => ?_⟩
    by_cases hu : u = v.thread
    · subst hu
      simpa using ht.2 _ _ (hv ht.1)
    · simpa [Function.update_of_ne hu] using hrest u

end Boxplot.Lib
