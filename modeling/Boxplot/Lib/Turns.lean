import Mathlib.Tactic
/-!
# Turns of an event loop

A component that takes one input at a time: a turn is an input with the states
around it. `Turns` says of a history that it starts in the initial state, and
that each of its turns was enabled in its state and admitted after the history
before it. A theorem about all `Turns` holds for every order in which inputs
arrive.
-/

namespace Boxplot.Lib

structure Turn (S I : Type) where
  before : S
  input : I
  after : S

variable {S I : Type}

/-- The state after a history. -/
def last (init : S) (h : List (Turn S I)) : S := (h.getLast?.map (·.after)).getD init

@[simp] theorem last_nil (init : S) : last init ([] : List (Turn S I)) = init := rfl

@[simp] theorem last_snoc (init : S) (h : List (Turn S I)) (t : Turn S I) : last init (h ++ [t]) = t.after := by
  simp [last]

/-- Histories from `init`. Which inputs are admitted may depend on the history, as for names that must be new. -/
inductive Turns (init : S) (step : S → I → Option S) (allowed : List (Turn S I) → I → Prop) : List (Turn S I) → Prop
  | nil : Turns init step allowed []
  | snoc {h : List (Turn S I)} {i : I} {s' : S} : Turns init step allowed h → allowed h i → step (last init h) i = some s' →
      Turns init step allowed (h ++ [⟨last init h, i, s'⟩])

namespace Turns

variable {init : S} {step : S → I → Option S} {allowed : List (Turn S I) → I → Prop} {h : List (Turn S I)}

/-- An invariant of histories that every turn keeps. -/
theorem inv {P : List (Turn S I) → Prop} (h0 : P [])
    (hkeep : ∀ h i s', Turns init step allowed h → P h → allowed h i → step (last init h) i = some s' →
      P (h ++ [⟨last init h, i, s'⟩])) (hr : Turns init step allowed h) : P h := by
  induction hr with
  | nil => exact h0
  | snoc hr ha hs ih => exact hkeep _ _ _ hr ih ha hs

/-- The turn after a part of a run was taken in the state the part ends in. -/
theorem turn (hr : Turns init step allowed h) : ∀ pre t post, h = pre ++ t :: post →
    Turns init step allowed pre ∧ t.before = last init pre ∧ allowed pre t.input ∧ step t.before t.input = some t.after := by
  induction hr with
  | nil =>
    intro pre t post he
    simp at he
  | @snoc h i s' hr ha hs ih =>
    intro pre t post he
    rcases List.eq_nil_or_concat post with rfl | ⟨post', t', rfl⟩
    · obtain ⟨hpre, ht⟩ := List.append_inj' he rfl
      obtain rfl := List.singleton_inj.1 ht
      subst hpre
      exact ⟨hr, rfl, ha, hs⟩
    · rw [List.concat_eq_append, ← List.cons_append, ← List.append_assoc] at he
      obtain ⟨he, -⟩ := List.append_inj' he rfl
      exact ih pre t post' he

/-- What holds after a part of a run and is kept from then on holds before every later turn, and at the end. -/
theorem after {Q : S → Prop} {pre : List (Turn S I)} (hQ : Q (last init pre))
    (hkeep : ∀ h i s', pre <+: h → Turns init step allowed h → allowed h i → step (last init h) i = some s' → Q (last init h) → Q s') :
    ∀ post, Turns init step allowed (pre ++ post) → Q (last init (pre ++ post)) ∧ ∀ t ∈ post, Q t.before := by
  intro post
  induction post using List.reverseRecOn with
  | nil =>
    intro _
    rw [List.append_nil]
    exact ⟨hQ, by simp⟩
  | append_singleton post t ih =>
    intro hr
    rw [← List.append_assoc] at hr ⊢
    obtain ⟨hpre, hbefore, ha, hs⟩ := hr.turn (pre ++ post) t [] rfl
    obtain ⟨hlast, hturns⟩ := ih hpre
    rw [hbefore] at hs
    refine ⟨by rw [last_snoc]; exact hkeep _ _ _ ⟨post, rfl⟩ hpre ha hs hlast, ?_⟩
    intro t' ht'
    rcases List.mem_append.1 ht' with ht' | ht'
    · exact hturns t' ht'
    · obtain rfl := List.mem_singleton.1 ht'
      rw [hbefore]
      exact hlast

end Turns

/-! ## Runs that compute -/

/-- Goes on with a list of inputs, each of which has to be allowed and enabled. -/
def play (init : S) (step : S → I → Option S) (allowed : List (Turn S I) → I → Prop) [∀ h i, Decidable (allowed h i)] :
    List (Turn S I) → List I → Option (List (Turn S I))
  | h, [] => some h
  | h, i :: rest =>
    if allowed h i then
      match step (last init h) i with
      | some s' => play init step allowed (h ++ [⟨last init h, i, s'⟩]) rest
      | none => none
    else none

theorem Turns.of_play {init : S} {step : S → I → Option S} {allowed : List (Turn S I) → I → Prop}
    [∀ h i, Decidable (allowed h i)] {inputs : List I} {h h' : List (Turn S I)} (hr : Turns init step allowed h)
    (hp : play init step allowed h inputs = some h') : Turns init step allowed h' := by
  induction inputs generalizing h with
  | nil =>
    cases hp
    exact hr
  | cons i rest ih =>
    unfold play at hp
    split at hp
    · rename_i hallowed
      split at hp
      · rename_i s' hstep
        exact ih (hr.snoc hallowed hstep) hp
      · cases hp
    · cases hp

/-- A computed run, with what is computed of it. -/
theorem exists_play (init : S) (step : S → I → Option S) (allowed : List (Turn S I) → I → Prop) [∀ h i, Decidable (allowed h i)]
    (inputs : List I) (P : List (Turn S I) → Prop) [DecidablePred P]
    (h : (play init step allowed [] inputs).any (fun h => decide (P h)) = true) :
    ∃ h, play init step allowed [] inputs = some h ∧ Turns init step allowed h ∧ P h := by
  obtain ⟨history, hplay, hP⟩ := (Option.any_eq_true _ _).1 h
  exact ⟨history, hplay, Turns.nil.of_play hplay, of_decide_eq_true hP⟩

end Boxplot.Lib
