import Mathlib.Tactic
/-!
# Programs that suspend

A `Prog` is a program that runs until it needs something from its environment,
makes a request and goes on with the reply. An `async` function is one (its
requests are its awaits), and so is a function whose every step can fail or
crash. A program is a value, so the model of a function is written with `do`
in the order of its source.

Two ways to run programs: `Exec` runs one against a world and may stop anywhere
(a crash), and `Run` interleaves any number of them, started at any time and
abandoned anywhere. For both, `Contract.wp` is the program logic: it says of a
program, by recursion on it, that every request it makes is allowed where it is
made. `Exec.sound` and `Run.sound` then speak about runs only.
-/

namespace Boxplot.Lib

/-- A program over requests `E` with replies `R`. -/
inductive Prog (E : Type) (R : E → Type) (α : Type) : Type
  | pure (a : α)
  | await (e : E) (k : R e → Prog E R α)

variable {E : Type} {R : E → Type} {α β S W : Type}

namespace Prog

def bind : Prog E R α → (α → Prog E R β) → Prog E R β
  | .pure a, f => f a
  | .await e k, f => .await e (fun r => (k r).bind f)

instance : Monad (Prog E R) where
  pure := Prog.pure
  bind := Prog.bind

/-- One request. -/
def call (e : E) : Prog E R (R e) := .await e .pure

end Prog

/-! ## Exceptions -/

/-- An async function whose promise resolves to an `α` or rejects with an `X`. -/
def Async (E : Type) (R : E → Type) (X α : Type) : Type := Prog E R (Except X α)

namespace Async

variable {X : Type}

/-- The program behind the promise. -/
def run (p : Async E R X α) : Prog E R (Except X α) := p

protected def bind (p : Async E R X α) (f : α → Async E R X β) : Async E R X β :=
  Prog.bind p fun
    | .ok a => f a
    | .error x => .pure (.error x)

instance : Monad (Async E R X) where
  pure a := Prog.pure (.ok a)
  bind := Async.bind

instance : MonadExceptOf X (Async E R X) where
  throw x := Prog.pure (.error x)
  tryCatch p h := Prog.bind p fun
    | .ok a => .pure (.ok a)
    | .error x => h x

/-- A request whose reply is used as it is. -/
def call (e : E) : Async E R X (R e) := .await e fun r => .pure (.ok r)

/-- A synchronous step that may throw. -/
def lift (r : Except X α) : Async E R X α := Prog.pure r

end Async

/-! ## The program logic -/

/-- What a program in state `s` may request, and how the state may move with a reply. -/
structure Contract (E : Type) (R : E → Type) (S : Type) where
  may : S → E → Prop
  step : S → (e : E) → R e → S → Prop

namespace Contract

variable (C : Contract E R S)

/-- From `s`, the program requests only what it may, and ends with `Q`. -/
def wp : Prog E R α → (α → S → Prop) → S → Prop
  | .pure a, Q, s => Q a s
  | .await e k, Q, s => C.may s e ∧ ∀ r s', C.step s e r s' → wp (k r) Q s'

@[simp] theorem wp_pure (a : α) (Q : α → S → Prop) (s : S) : C.wp (.pure a) Q s ↔ Q a s := Iff.rfl

@[simp] theorem wp_await (e : E) (k : R e → Prog E R α) (Q : α → S → Prop) (s : S) :
    C.wp (.await e k) Q s ↔ C.may s e ∧ ∀ r s', C.step s e r s' → C.wp (k r) Q s' := Iff.rfl

@[simp] theorem wp_bind (p : Prog E R α) (f : α → Prog E R β) (Q : β → S → Prop) (s : S) :
    C.wp (p.bind f) Q s ↔ C.wp p (fun a s' => C.wp (f a) Q s') s := by
  induction p generalizing s with
  | pure a => rfl
  | await e k ih =>
    simp only [Prog.bind, wp_await]
    exact and_congr Iff.rfl (forall_congr' fun r => forall_congr' fun s' => imp_congr Iff.rfl (ih r s'))

theorem wp_mono {p : Prog E R α} {Q Q' : α → S → Prop} (hQ : ∀ a s, Q a s → Q' a s) {s : S}
    (h : C.wp p Q s) : C.wp p Q' s := by
  induction p generalizing s with
  | pure a => exact hQ a s h
  | await e k ih => exact ⟨h.1, fun r s' hs => ih r (h.2 r s' hs)⟩

variable {X : Type}

/-- `wp` of an async function: `Q` holds of its outcome. -/
abbrev wpA (p : Async E R X α) (Q : Except X α → S → Prop) (s : S) : Prop := C.wp p.run Q s

@[simp] theorem wpA_pure (a : α) (Q : Except X α → S → Prop) (s : S) :
    C.wpA (pure a : Async E R X α) Q s ↔ Q (.ok a) s := Iff.rfl

@[simp] theorem wpA_throw (x : X) (Q : Except X α → S → Prop) (s : S) :
    C.wpA (throw x : Async E R X α) Q s ↔ Q (.error x) s := Iff.rfl

@[simp] theorem wpA_lift (r : Except X α) (Q : Except X α → S → Prop) (s : S) :
    C.wpA (Async.lift r : Async E R X α) Q s ↔ Q r s := Iff.rfl

@[simp] theorem wpA_call (e : E) (Q : Except X (R e) → S → Prop) (s : S) :
    C.wpA (Async.call e : Async E R X (R e)) Q s ↔ C.may s e ∧ ∀ r s', C.step s e r s' → Q (.ok r) s' := Iff.rfl

/-- The rest of a `do` block after its first promise. -/
def andThen (f : α → Async E R X β) (Q : Except X β → S → Prop) : Except X α → S → Prop
  | .ok a, s => C.wpA (f a) Q s
  | .error x, s => Q (.error x) s

@[simp] theorem andThen_ok (f : α → Async E R X β) (Q : Except X β → S → Prop) (a : α) (s : S) :
    C.andThen f Q (.ok a) s ↔ C.wpA (f a) Q s := Iff.rfl

@[simp] theorem andThen_error (f : α → Async E R X β) (Q : Except X β → S → Prop) (x : X) (s : S) :
    C.andThen f Q (.error x) s ↔ Q (.error x) s := Iff.rfl

@[simp] theorem wpA_bind (p : Async E R X α) (f : α → Async E R X β) (Q : Except X β → S → Prop) (s : S) :
    C.wpA (p >>= f) Q s ↔ C.wpA p (C.andThen f Q) s := by
  refine (C.wp_bind _ _ _ _).trans (Iff.of_eq (congrArg (C.wp p.run · s) ?_))
  funext r s'
  cases r <;> rfl

/-- The handler of a `try` block. -/
def orElse (h : X → Async E R X α) (Q : Except X α → S → Prop) : Except X α → S → Prop
  | .ok a, s => Q (.ok a) s
  | .error x, s => C.wpA (h x) Q s

@[simp] theorem orElse_ok (h : X → Async E R X α) (Q : Except X α → S → Prop) (a : α) (s : S) :
    C.orElse h Q (.ok a) s ↔ Q (.ok a) s := Iff.rfl

@[simp] theorem orElse_error (h : X → Async E R X α) (Q : Except X α → S → Prop) (x : X) (s : S) :
    C.orElse h Q (.error x) s ↔ C.wpA (h x) Q s := Iff.rfl

@[simp] theorem wpA_tryCatch (p : Async E R X α) (h : X → Async E R X α) (Q : Except X α → S → Prop) (s : S) :
    C.wpA (tryCatch p h) Q s ↔ C.wpA p (C.orElse h Q) s := by
  refine (C.wp_bind _ _ _ _).trans (Iff.of_eq (congrArg (C.wp p.run · s) ?_))
  funext r s'
  cases r <;> rfl

theorem wpA_mono {p : Async E R X α} {Q Q' : Except X α → S → Prop} (hQ : ∀ a s, Q a s → Q' a s) {s : S}
    (h : C.wpA p Q s) : C.wpA p Q' s := C.wp_mono hQ h

/-! ### Programs that keep a contract from every state -/

/-- Whatever state it starts in, the program requests only what it may. -/
def Always (p : Async E R X α) : Prop := ∀ s, C.wpA p (fun _ _ => True) s

variable {C}

theorem Always.pure (a : α) : C.Always (Pure.pure a : Async E R X α) := fun _ => trivial

theorem Always.throw (x : X) : C.Always (MonadExcept.throw x : Async E R X α) := fun _ => trivial

theorem Always.lift (r : Except X α) : C.Always (Async.lift r : Async E R X α) := fun _ => trivial

theorem Always.call {e : E} (h : ∀ s, C.may s e) : C.Always (Async.call e : Async E R X (R e)) :=
  fun s => ⟨h s, fun _ _ _ => trivial⟩

theorem Always.bind {p : Async E R X α} {f : α → Async E R X β} (hp : C.Always p) (hf : ∀ a, C.Always (f a)) :
    C.Always (p >>= f) := by
  intro s
  rw [wpA_bind]
  refine C.wpA_mono (fun r s' _ => ?_) (hp s)
  cases r with
  | ok a => exact hf a s'
  | error x => trivial

theorem Always.tryCatch {p : Async E R X α} {h : X → Async E R X α} (hp : C.Always p) (hh : ∀ x, C.Always (h x)) :
    C.Always (MonadExcept.tryCatch p h) := by
  intro s
  rw [wpA_tryCatch]
  refine C.wpA_mono (fun r s' _ => ?_) (hp s)
  cases r with
  | ok a => trivial
  | error x => exact hh x s'

/-- A program with a postcondition, followed by one that needs it. -/
theorem wpA_bind_of {p : Async E R X α} {f : α → Async E R X β} {P : Except X α → S → Prop} {Q : Except X β → S → Prop}
    {s : S} (hp : C.wpA p P s) (hf : ∀ a s', P (.ok a) s' → C.wpA (f a) Q s') (hx : ∀ x s', P (.error x) s' → Q (.error x) s') :
    C.wpA (p >>= f) Q s := by
  rw [wpA_bind]
  refine C.wpA_mono (fun r s' hr => ?_) hp
  cases r with
  | ok a => exact hf a s' hr
  | error x => exact hx x s' hr

/-- A program that succeeds, followed by one that needs its postcondition. -/
theorem wpA_bind_ok {p : Async E R X α} {f : α → Async E R X β} {P : α → S → Prop} {Q : Except X β → S → Prop} {s : S}
    (hp : C.wpA p (fun r s' => ∃ a, r = .ok a ∧ P a s') s) (hf : ∀ a s', P a s' → C.wpA (f a) Q s') : C.wpA (p >>= f) Q s :=
  wpA_bind_of hp (fun a s' ⟨b, hb, hP⟩ => by cases hb; exact hf a s' hP) fun x s' ⟨b, hb, _⟩ => by cases hb

/-- A loop whose every step leads from one list of what is left to the next. -/
theorem wpA_forM {f : α → Async E R X PUnit} {J : List α → S → Prop} {Q : Except X PUnit → S → Prop}
    (hstep : ∀ a rest s, J (a :: rest) s → C.wpA (f a) (fun r s' => match r with
      | .ok _ => J rest s'
      | .error x => Q (.error x) s') s)
    (hend : ∀ s, J [] s → Q (.ok ⟨⟩) s) {l : List α} {s : S} (h : J l s) : C.wpA (l.forM f) Q s := by
  induction l generalizing s with
  | nil => exact hend s h
  | cons a rest ih =>
    change C.wpA (f a >>= fun _ => rest.forM f) Q s
    exact wpA_bind_of (hstep a rest s h) (fun _ _ hJ => ih hJ) fun _ _ hQ => hQ

/-! ### Programs that move on -/

/-- The program moves on along `later`, and if it ends well `P` holds. -/
def Yields (C : Contract E R S) (later : S → S → Prop) (p : Async E R X α) (P : α → S → Prop) (s : S) : Prop :=
  C.wpA p (fun r s' => later s s' ∧ ∀ a, r = .ok a → P a s') s

theorem Yields.mono {later : S → S → Prop} {p : Async E R X α} {P Q : α → S → Prop} {s : S} (h : C.Yields later p P s)
    (hPQ : ∀ a s', later s s' → P a s' → Q a s') : C.Yields later p Q s :=
  wpA_mono C (fun _ s' ⟨hl, hP⟩ => ⟨hl, fun a ha => hPQ a s' hl (hP a ha)⟩) h

section

variable {later : S → S → Prop} [IsPreorder S later] {p : Async E R X α} {P : α → S → Prop} {s : S}

theorem Yields.bind {f : α → Async E R X β} {Q : β → S → Prop} (hp : C.Yields later p P s)
    (hf : ∀ a s', later s s' → P a s' → C.Yields later (f a) Q s') : C.Yields later (p >>= f) Q s := by
  refine wpA_bind_of hp (fun a s' ⟨hl, hP⟩ => ?_) fun x s' ⟨hl, _⟩ => ⟨hl, by rintro a ⟨⟩⟩
  refine wpA_mono C ?_ (hf a s' hl (hP a rfl))
  rintro r s'' ⟨hl', hQ⟩
  exact ⟨IsTrans.trans _ _ _ hl hl', hQ⟩

theorem Yields.lift {r : Except X α} (h : ∀ a, r = .ok a → P a s) : C.Yields later (Async.lift r : Async E R X α) P s :=
  ⟨refl s, h⟩

theorem Yields.pure {a : α} (h : P a s) : C.Yields later (Pure.pure a : Async E R X α) P s := by
  refine ⟨refl s, ?_⟩
  rintro b ⟨⟩
  exact h

theorem Yields.throw {x : X} : C.Yields later (MonadExcept.throw x : Async E R X α) P s := ⟨refl s, by rintro b ⟨⟩⟩

/-- A program that recovers from an error. -/
theorem Yields.tryCatch {h : X → Async E R X α} (hp : C.Yields later p P s) (hh : ∀ x s', later s s' → C.Yields later (h x) P s') :
    C.Yields later (MonadExcept.tryCatch p h) P s := by
  rw [Yields, wpA_tryCatch]
  refine wpA_mono C (fun r s' hr => ?_) hp
  cases r with
  | ok a => exact hr
  | error x =>
    refine wpA_mono C ?_ (hh x s' hr.1)
    rintro r s'' ⟨hl', hP⟩
    exact ⟨IsTrans.trans _ _ _ hr.1 hl', hP⟩

end

end Contract

/-! ## One program that may crash -/

/-- A run of a program against a world: it ends with a value, or stops anywhere (`none`). -/
inductive Exec (perform : W → (e : E) → R e → W → Prop) : Prog E R α → W → Option α → W → Prop
  | done (a : α) (w : W) : Exec perform (.pure a) w (some a) w
  | crash (p : Prog E R α) (w : W) : Exec perform p w none w
  | step {e : E} {k : R e → Prog E R α} {w w' w'' : W} {r : R e} {o : Option α} :
      perform w e r w' → Exec perform (k r) w' o w'' → Exec perform (.await e k) w o w''

/-- The contract of a program that must keep `I` at every step. -/
def keeps (perform : W → (e : E) → R e → W → Prop) (I : W → Prop) : Contract E R W where
  may w _ := I w
  step := perform

/-- A program that keeps `I` keeps it also where it crashes, and ends with its postcondition. -/
theorem Exec.sound {perform : W → (e : E) → R e → W → Prop} {I : W → Prop} {p : Prog E R α} {Q : α → W → Prop}
    {w w' : W} {o : Option α} (h : Exec perform p w o w') (hI : I w) (hp : (keeps perform I).wp p Q w)
    (hQ : ∀ a w, Q a w → I w) : I w' ∧ ∀ a, o = some a → Q a w' := by
  induction h with
  | done a w => exact ⟨hI, by rintro _ ⟨⟩; exact hp⟩
  | crash p w => exact ⟨hI, by simp⟩
  | @step e k w w' w'' r o ht _ ih =>
    have hk := hp.2 r w' ht
    refine ih ?_ hk
    cases hkr : k r with
    | pure a => rw [hkr] at hk; exact hQ a w' hk
    | await e' k' => rw [hkr] at hk; exact hk.1

/-- A run moves on along what each step does. -/
theorem Exec.moves {perform : W → (e : E) → R e → W → Prop} {later : W → W → Prop} [IsPreorder W later]
    (hp : ∀ w e r w', perform w e r w' → later w w') {p : Prog E R α} {w w' : W} {o : Option α} (h : Exec perform p w o w') :
    later w w' := by
  induction h with
  | done a w => exact refl w
  | crash p w => exact refl w
  | step hs _ ih => exact IsTrans.trans _ _ _ (hp _ _ _ _ hs) ih

/-- Runs a program against a function that answers its requests, up to one it does not answer. -/
def Prog.play (answer : W → (e : E) → Option (R e × W)) : Prog E R α → W → Option α × W
  | .pure a, w => (some a, w)
  | .await e k, w =>
    match answer w e with
    | some (r, w') => (k r).play answer w'
    | none => (none, w)

theorem Exec.of_play {perform : W → (e : E) → R e → W → Prop} {answer : W → (e : E) → Option (R e × W)}
    (h : ∀ w e r w', answer w e = some (r, w') → perform w e r w') (p : Prog E R α) (w : W) :
    Exec perform p w (p.play answer w).1 (p.play answer w).2 := by
  induction p generalizing w with
  | pure a => exact .done a w
  | await e k ih =>
    unfold Prog.play
    cases ha : answer w e with
    | none => exact .crash _ w
    | some reply => exact .step (h _ _ _ _ ha) (ih reply.1 reply.2)

/-- A program whose every request is answered comes to its end. -/
theorem Prog.play_ends {answer : W → (e : E) → Option (R e × W)} (h : ∀ w e, ∃ r w', answer w e = some (r, w')) (p : Prog E R α)
    (w : W) : ∃ a, (p.play answer w).1 = some a := by
  induction p generalizing w with
  | pure a => exact ⟨a, rfl⟩
  | await e k ih =>
    obtain ⟨r, w', ha⟩ := h w e
    simp only [Prog.play, ha]
    exact ih r w'

/-- The contract of a program whose every request must have an answer. -/
def answerable (perform : W → (e : E) → R e → W → Prop) : Contract E R W where
  may w e := ∃ r w', perform w e r w'
  step := perform

/-- A program whose every request has an answer can be run to its end. -/
theorem Exec.ends {perform : W → (e : E) → R e → W → Prop} {p : Prog E R α} {Q : α → W → Prop} {w : W}
    (h : (answerable perform).wp p Q w) : ∃ a w', Exec perform p w (some a) w' ∧ Q a w' := by
  induction p generalizing w with
  | pure a => exact ⟨a, w, .done a w, h⟩
  | await e k ih =>
    obtain ⟨⟨r, w', hr⟩, hk⟩ := h
    obtain ⟨a, w'', hrun, hQ⟩ := ih r (hk r w' hr)
    exact ⟨a, w'', .step hr hrun, hQ⟩

/-- What a program is known to end with, it ends with where its requests have answers. -/
theorem wp_answerable {perform : W → (e : E) → R e → W → Prop} {p : Prog E R α} {Q : α → W → Prop} {w : W}
    (hp : (keeps perform fun _ => True).wp p Q w) (ha : (answerable perform).wp p (fun _ _ => True) w) :
    (answerable perform).wp p Q w := by
  induction p generalizing w with
  | pure a => exact hp
  | await e k ih => exact ⟨ha.1, fun r w' hr => ih r (hp.2 r w' hr) (ha.2 r w' hr)⟩

/-! ## Interleaved programs -/

/-- Started programs by number: `none` for one not started or abandoned. -/
structure Pool (E : Type) (R : E → Type) (α W : Type) where
  world : W
  threads : Nat → Option (Prog E R α)
  started : Nat

/-- How a world answers the request of a thread, what may be started, and what else changes the world. -/
structure System (E : Type) (R : E → Type) (α W : Type) where
  perform : W → Nat → (e : E) → R e → W → Prop
  starts : Prog E R α → Prop
  env : W → W → Prop

namespace System

variable (Y : System E R α W)

/-- One step: a thread's request is answered, a thread starts or is abandoned, or the environment moves. -/
inductive Step : Pool E R α W → Pool E R α W → Prop
  | call {c : Pool E R α W} {t : Nat} {e : E} {k : R e → Prog E R α} {r : R e} {w : W} :
      c.threads t = some (.await e k) → Y.perform c.world t e r w →
      Step c { c with world := w, threads := Function.update c.threads t (some (k r)) }
  | start {c : Pool E R α W} {p : Prog E R α} : Y.starts p →
      Step c { c with threads := Function.update c.threads c.started (some p), started := c.started + 1 }
  | crash {c : Pool E R α W} (t : Nat) : Step c { c with threads := Function.update c.threads t none }
  | env {c : Pool E R α W} {w : W} : Y.env c.world w → Step c { c with world := w }

/-- No thread has started. -/
def idle (w : W) : Pool E R α W := ⟨w, fun _ => none, 0⟩

/-- Any number of steps. -/
abbrev Run : Pool E R α W → Pool E R α W → Prop := Relation.ReflTransGen Y.Step

/-- Each live thread is in a stage of its contract, from where it keeps the contract. -/
def Staged (C : Contract E R S) (c : Pool E R α W) (σ : Nat → Option S) : Prop :=
  (∀ t, c.started ≤ t → c.threads t = none ∧ σ t = none) ∧
  ∀ t p, c.threads t = some p → ∃ s, σ t = some s ∧ C.wp p (fun _ _ => True) s

/-- The same, and each thread ends with `Q`. -/
def StagedTo (C : Contract E R S) (Q : α → S → Prop) (c : Pool E R α W) (σ : Nat → Option S) : Prop :=
  (∀ t, c.started ≤ t → c.threads t = none ∧ σ t = none) ∧
  ∀ t p, c.threads t = some p → ∃ s, σ t = some s ∧ C.wp p Q s

/-- An invariant of worlds and thread stages that holds at the start and that every allowed step keeps. -/
structure Invariant (C : Contract E R S) (s₀ : S) (w₀ : W) (I : W → Nat → (Nat → Option S) → Prop) : Prop where
  init : I w₀ 0 (fun _ => none)
  enters : ∀ p, Y.starts p → C.wp p (fun _ _ => True) s₀
  call : ∀ {w w' n σ t s e} {r : R e}, I w n σ → t < n → σ t = some s → C.may s e → Y.perform w t e r w' →
    ∃ s', C.step s e r s' ∧ I w' n (Function.update σ t (some s'))
  start : ∀ {w n σ}, I w n σ → σ n = none → I w (n + 1) (Function.update σ n (some s₀))
  crash : ∀ {w n σ} (t : Nat), I w n σ → I w n (Function.update σ t none)
  env : ∀ {w w' n σ}, I w n σ → Y.env w w' → I w' n σ

variable {Y}

/-- One thread may run alone for a while: to its end, or to where it is abandoned. -/
theorem Run.alone (c : Pool E R α W) {t : Nat} {p : Prog E R α} {w w' : W} {o : Option α}
    (h : Exec (fun w => Y.perform w t) p w o w') (hw : c.world = w) (ht : c.threads t = some p) :
    ∃ c', Y.Run c c' ∧ c'.world = w' ∧ c'.threads t = o.map .pure ∧ c'.started = c.started := by
  induction h generalizing c with
  | done a w => exact ⟨c, .refl, hw, ht, rfl⟩
  | crash p w => exact ⟨_, .tail .refl (.crash t), hw, by simp, rfl⟩
  | @step e k w w' w'' r o hp _ ih =>
    subst hw
    obtain ⟨c', hr, hc'⟩ := ih ⟨w', Function.update c.threads t (some (k r)), c.started⟩ rfl (by simp)
    exact ⟨c', .trans (.tail .refl (.call ht hp)) hr, hc'⟩

/-- A thread may be started and run alone. -/
theorem Run.spawn (c : Pool E R α W) {p : Prog E R α} {w : W} {o : Option α} (hp : Y.starts p)
    (h : Exec (fun w => Y.perform w c.started) p c.world o w) :
    ∃ c', Y.Run c c' ∧ c'.world = w ∧ c'.threads c.started = o.map .pure ∧ c'.started = c.started + 1 := by
  have hs : Y.Step c ⟨c.world, Function.update c.threads c.started (some p), c.started + 1⟩ := .start hp
  obtain ⟨c', hr, hc'⟩ := Run.alone ⟨c.world, Function.update c.threads c.started (some p), c.started + 1⟩ h rfl (by simp)
  exact ⟨c', .trans (.single hs) hr, hc'⟩

/-- An entry of a script: the environment moves, or a thread starts and runs alone. -/
inductive Scripted (E : Type) (R : E → Type) (α W : Type)
  | env (move : W → Option W)
  | thread (p : Prog E R α)

/-- The world after a script, threads numbered from `n`. -/
def playScript (answer : Nat → W → (e : E) → Option (R e × W)) : List (Scripted E R α W) → Nat → W → Option W
  | [], _, w => some w
  | .env move :: rest, n, w => (move w).bind (playScript answer rest n)
  | .thread p :: rest, n, w => playScript answer rest (n + 1) (p.play (answer n) w).2

variable (Y) in
/-- The environment may move so, or the thread may start. -/
def Scripted.Possible : Scripted E R α W → Prop
  | .env move => ∀ w w', move w = some w' → Y.env w w'
  | .thread p => Y.starts p

/-- A script whose entries are possible is a run. -/
theorem Run.of_script {answer : Nat → W → (e : E) → Option (R e × W)}
    (h : ∀ t w e r w', answer t w e = some (r, w') → Y.perform w t e r w') {script : List (Scripted E R α W)}
    (hp : ∀ entry ∈ script, entry.Possible Y) (c : Pool E R α W) {w : W}
    (hw : playScript answer script c.started c.world = some w) : ∃ c', Y.Run c c' ∧ c'.world = w := by
  induction script generalizing c with
  | nil => exact ⟨c, .refl, Option.some.inj hw⟩
  | cons entry rest ih =>
    have hrest := fun e he => hp e (List.mem_cons_of_mem _ he)
    cases entry with
    | env move =>
      obtain ⟨w₁, hmove, hw⟩ := Option.bind_eq_some_iff.1 hw
      have hstep : Y.Step c { c with world := w₁ } := .env (hp _ List.mem_cons_self _ _ hmove)
      obtain ⟨c', hrun, hc'⟩ := ih hrest { c with world := w₁ } hw
      exact ⟨c', .trans (.single hstep) hrun, hc'⟩
    | thread p =>
      obtain ⟨c₁, hrun₁, hw₁, -, hn₁⟩ := Run.spawn c (hp _ List.mem_cons_self) (Exec.of_play (h c.started) p c.world)
      obtain ⟨c', hrun, hc'⟩ := ih hrest c₁ (by rw [hw₁, hn₁]; exact hw)
      exact ⟨c', .trans hrun₁ hrun, hc'⟩

/-- A move of a schedule: a program starts, or a thread's request is answered. -/
inductive Move (E : Type) (R : E → Type) (α : Type)
  | start (p : Prog E R α)
  | call (t : Nat)

/-- The pool after a schedule whose moves are numbered from `i`. -/
def playMoves (answer : Nat → W → Nat → (e : E) → Option (R e × W)) :
    List (Move E R α) → Nat → Pool E R α W → Option (Pool E R α W)
  | [], _, c => some c
  | .start p :: rest, i, c =>
    playMoves answer rest (i + 1) { c with threads := Function.update c.threads c.started (some p), started := c.started + 1 }
  | .call t :: rest, i, c =>
    match c.threads t with
    | some (.await e k) =>
      (answer i c.world t e).bind fun rw =>
        playMoves answer rest (i + 1) { c with world := rw.2, threads := Function.update c.threads t (some (k rw.1)) }
    | _ => none

/-- A schedule that can be played is a run. -/
theorem Run.of_moves {answer : Nat → W → Nat → (e : E) → Option (R e × W)}
    (h : ∀ i w t e r w', answer i w t e = some (r, w') → Y.perform w t e r w') {moves : List (Move E R α)}
    (hp : ∀ p, .start p ∈ moves → Y.starts p) {i : Nat} {c c' : Pool E R α W} (hc : playMoves answer moves i c = some c') :
    Y.Run c c' := by
  induction moves generalizing c i with
  | nil =>
    cases hc
    exact .refl
  | cons move rest ih =>
    have hrest := fun p hmem => hp p (List.mem_cons_of_mem _ hmem)
    cases move with
    | start p =>
      have hstep : Y.Step c { c with threads := Function.update c.threads c.started (some p), started := c.started + 1 } :=
        .start (hp p List.mem_cons_self)
      exact .trans (.single hstep) (ih hrest hc)
    | call t =>
      unfold playMoves at hc
      split at hc
      · rename_i e k ht
        obtain ⟨⟨r, w⟩, hanswer, hc⟩ := Option.bind_eq_some_iff.1 hc
        exact .trans (.single (.call ht (h i c.world t e r w hanswer))) (ih hrest hc)
      · cases hc

/-- Threads that keep their contract and end with `Q`, under an invariant of what the contracts allow. -/
theorem Run.sound_to {C : Contract E R S} {s₀ : S} {w₀ : W} {I : W → Nat → (Nat → Option S) → Prop} {Q : α → S → Prop}
    (hI : Y.Invariant C s₀ w₀ I) (hQ : ∀ p, Y.starts p → C.wp p Q s₀) {c : Pool E R α W} (h : Y.Run (idle w₀) c) :
    ∃ σ, I c.world c.started σ ∧ StagedTo C Q c σ := by
  induction h with
  | refl => exact ⟨fun _ => none, hI.init, by simp [idle], by simp [idle]⟩
  | @tail c c' _ hs ih =>
    obtain ⟨σ, hσ, hfresh, hst⟩ := ih
    cases hs with
    | @call t e k r w ht hp =>
      obtain ⟨s, hs, hwp⟩ := hst t _ ht
      have hlt : t < c.started := by
        by_contra hn
        rw [(hfresh t (by omega)).1] at ht; cases ht
      obtain ⟨s', hs', hI'⟩ := hI.call hσ hlt hs hwp.1 hp
      refine ⟨_, hI', fun u hu => ?_, fun u p hu => ?_⟩
      · have hne : u ≠ t := by rintro rfl; exact absurd hlt (by simpa using hu)
        simpa [Function.update_of_ne hne] using hfresh u hu
      · by_cases hut : u = t
        · subst hut
          simp only [Function.update_self, Option.some.injEq] at hu ⊢
          subst hu
          exact ⟨s', rfl, hwp.2 r s' hs'⟩
        · simp only [Function.update_of_ne hut] at hu ⊢
          exact hst u p hu
    | @start p hp =>
      refine ⟨_, hI.start hσ (hfresh _ le_rfl).2, fun u hu => ?_, fun u q hu => ?_⟩
      · have hne : u ≠ c.started := by rintro rfl; simp at hu
        simpa [Function.update_of_ne hne] using hfresh u (by simp at hu; omega)
      · by_cases hut : u = c.started
        · subst hut
          simp only [Function.update_self, Option.some.injEq] at hu ⊢
          subst hu
          exact ⟨s₀, rfl, hQ _ hp⟩
        · simp only [Function.update_of_ne hut] at hu ⊢
          exact hst u q hu
    | crash t =>
      refine ⟨_, hI.crash t hσ, fun u hu => ?_, fun u q hu => ?_⟩
      · by_cases hut : u = t
        · subst hut; simp
        · simpa [Function.update_of_ne hut] using hfresh u hu
      · by_cases hut : u = t
        · subst hut; simp at hu
        · simp only [Function.update_of_ne hut] at hu ⊢
          exact hst u q hu
    | env he => exact ⟨σ, hI.env hσ he, hfresh, hst⟩

/-- Threads that keep their contract, under an invariant of what the contracts allow. -/
theorem Run.sound {C : Contract E R S} {s₀ : S} {w₀ : W} {I : W → Nat → (Nat → Option S) → Prop}
    (hI : Y.Invariant C s₀ w₀ I) {c : Pool E R α W} (h : Y.Run (idle w₀) c) :
    ∃ σ, I c.world c.started σ ∧ Staged C c σ :=
  Run.sound_to hI hI.enters h

/-- An invariant of worlds and stages where an abandoned thread stays in its last stage, and one not started in the first. -/
structure LastingInvariant (Y : System E R α W) (C : Contract E R S) (s₀ : S) (w₀ : W) (I : W → (Nat → S) → Prop) : Prop where
  init : I w₀ fun _ => s₀
  call : ∀ {w w' t σ e} {r : R e}, I w σ → C.may (σ t) e → Y.perform w t e r w' →
    ∃ s', C.step (σ t) e r s' ∧ I w' (Function.update σ t s')
  env : ∀ {w w' σ}, I w σ → Y.env w w' → I w' σ

/-- The stages of the live threads, of which the lasting ones know more. -/
def Lasting (I : W → (Nat → S) → Prop) (s₀ : S) (w : W) (n : Nat) (σ : Nat → Option S) : Prop :=
  ∃ τ, I w τ ∧ (∀ t, n ≤ t → τ t = s₀) ∧ ∀ t s, σ t = some s → τ t = s

/-- Threads that keep their contract and end with `Q`, under a lasting invariant. -/
theorem Run.sound_lasting {C : Contract E R S} {s₀ : S} {w₀ : W} {I : W → (Nat → S) → Prop} {Q : α → S → Prop}
    (hI : Y.LastingInvariant C s₀ w₀ I) (hQ : ∀ p, Y.starts p → C.wp p Q s₀) {c : Pool E R α W} (h : Y.Run (idle w₀) c) :
    ∃ σ, I c.world σ ∧ (∀ t, c.started ≤ t → σ t = s₀) ∧ ∀ t p, c.threads t = some p → C.wp p Q (σ t) := by
  have hinv : Y.Invariant C s₀ w₀ (Lasting I s₀) := by
    refine ⟨⟨_, hI.init, fun _ _ => rfl, by rintro t s ⟨⟩⟩, ?_, ?_, ?_, ?_, ?_⟩
    · exact fun p hp => C.wp_mono (fun _ _ _ => trivial) (hQ p hp)
    · rintro w w' n σ t s e r ⟨τ, hτ, hfresh, hlast⟩ hlt hs hmay hp
      obtain rfl := hlast t s hs
      obtain ⟨s', hs', hτ'⟩ := hI.call hτ hmay hp
      refine ⟨s', hs', Function.update τ t s', hτ', fun u hu => ?_, fun u s hu => ?_⟩
      · rw [Function.update_of_ne (by omega)]
        exact hfresh u hu
      · by_cases hut : u = t
        · subst hut
          rw [Function.update_self] at hu ⊢
          exact Option.some.inj hu
        · rw [Function.update_of_ne hut] at hu ⊢
          exact hlast u s hu
    · rintro w n σ ⟨τ, hτ, hfresh, hlast⟩ _
      refine ⟨τ, hτ, fun u hu => hfresh u (by omega), fun u s hu => ?_⟩
      by_cases hun : u = n
      · subst hun
        rw [Function.update_self] at hu
        rw [hfresh u le_rfl, Option.some.inj hu]
      · rw [Function.update_of_ne hun] at hu
        exact hlast u s hu
    · rintro w n σ t ⟨τ, hτ, hfresh, hlast⟩
      refine ⟨τ, hτ, hfresh, fun u s hu => ?_⟩
      by_cases hut : u = t
      · subst hut
        rw [Function.update_self] at hu
        cases hu
      · rw [Function.update_of_ne hut] at hu
        exact hlast u s hu
    · rintro w w' n σ ⟨τ, hτ, hfresh, hlast⟩ he
      exact ⟨τ, hI.env hτ he, hfresh, hlast⟩
  obtain ⟨σ, ⟨τ, hτ, hfresh, hlast⟩, -, hst⟩ := sound_to hinv hQ h
  refine ⟨τ, hτ, hfresh, fun t p ht => ?_⟩
  obtain ⟨s, hs, hwp⟩ := hst t p ht
  rw [hlast t s hs]
  exact hwp

/-- A thread that has ended or was abandoned takes no further part: what the others and the
environment keep, holds from there on. -/
theorem Run.without (P : W → W → Prop) (hrefl : ∀ w, P w w) (htrans : ∀ {a b c}, P a b → P b c → P a c) {t : Nat}
    (hcall : ∀ {w u e} {r : R e} {w'}, u ≠ t → Y.perform w u e r w' → P w w') (henv : ∀ {w w'}, Y.env w w' → P w w')
    {c c' : Pool E R α W} (h : Y.Run c c') (ht : c.threads t = none) (hlt : t < c.started) : P c.world c'.world := by
  suffices hs : c'.threads t = none ∧ t < c'.started ∧ P c.world c'.world from hs.2.2
  induction h with
  | refl => exact ⟨ht, hlt, hrefl _⟩
  | @tail d d' _ hs ih =>
    obtain ⟨hd, hlt, hP⟩ := ih
    cases hs with
    | @call u e k r w hu hp =>
      have hne : u ≠ t := by rintro rfl; rw [hd] at hu; cases hu
      exact ⟨by simp [Function.update_of_ne (Ne.symm hne), hd], hlt, htrans hP (hcall hne hp)⟩
    | start hp =>
      have hne : t ≠ d.started := by omega
      exact ⟨by simp [Function.update_of_ne hne, hd], by simp only; omega, hP⟩
    | crash u =>
      refine ⟨?_, hlt, hP⟩
      by_cases hu : t = u
      · subst hu; simp
      · simp [Function.update_of_ne hu, hd]
    | env he => exact ⟨hd, hlt, htrans hP (henv he)⟩

end System

end Boxplot.Lib
