import Mathlib.Tactic
/-!
# Calls that report only if they are the last

A counter numbers calls as they begin. A call waits for its answer with the
number it drew, and reports only if no other call has drawn one since: readers
that must not show an old answer over a newer one.
-/

namespace Boxplot.Lib

/-- A call with answers in `A` that may report a `B`. -/
inductive Ticketed (A B : Type)
  | waiting (ticket : Nat)
  | answered (ticket : Nat) (answer : A)
  | done (report : Option B)

/-- The counter still shows the number drawn, unless it was drawn from since. -/
structure Held (counter ticket : Nat) (alone : Prop) : Prop where
  le : ticket ≤ counter
  current_iff : ticket = counter ↔ alone

theorem Held.draw (counter : Nat) {alone : Prop} (h : alone) : Held counter counter alone :=
  ⟨le_rfl, by simp [h]⟩

/-- Another call draws. -/
theorem Held.overtaken {counter ticket : Nat} {alone : Prop} (h : Held counter ticket alone) : Held (counter + 1) ticket False := by
  refine ⟨Nat.le_succ_of_le h.le, ?_⟩
  have hle := h.le
  constructor
  · intro heq
    omega
  · exact False.elim

namespace Ticketed

variable {A B : Type}

/-- It has begun, and has not come back. -/
def inFlight : Ticketed A B → Bool
  | .waiting _ => true
  | .answered _ _ => true
  | .done _ => false

/-- Alone, a call gets an answer in `P` and reports something in `Q`; overtaken, it reports nothing. -/
inductive Tracked (counter : Nat) (alone : Prop) (P : A → Prop) (Q : B → Prop) : Ticketed A B → Prop
  | waiting {ticket : Nat} (held : Held counter ticket alone) : Tracked counter alone P Q (.waiting ticket)
  | answered {ticket : Nat} {answer : A} (held : Held counter ticket alone) (good : P answer) :
      Tracked counter alone P Q (.answered ticket answer)
  | done {report : Option B} (reports : alone → ∃ b, report = some b ∧ Q b) (overtaken : ¬alone → report = none) :
      Tracked counter alone P Q (.done report)

variable {counter : Nat} {alone : Prop} {P P' : A → Prop} {Q Q' : B → Prop} {c : Ticketed A B}

theorem Tracked.draw (counter : Nat) (h : alone) : Tracked counter alone P Q (.waiting counter) :=
  .waiting (.draw counter h)

/-- Another call begins. -/
theorem Tracked.overtake (h : Tracked counter alone P Q c) : Tracked (counter + 1) (alone ∧ c.inFlight = false) P Q c := by
  cases h with
  | waiting held =>
    refine .waiting ?_
    simpa [inFlight] using held.overtaken
  | answered held good =>
    refine .answered ?_ good
    simpa [inFlight] using held.overtaken
  | done reports overtaken =>
    refine .done (fun ha => reports ha.1) fun hn => overtaken fun ha => ?_
    exact hn ⟨ha, rfl⟩

theorem Tracked.answer {ticket : Nat} (h : Tracked counter alone P Q (.waiting ticket)) {answer : A} (good : P answer) :
    Tracked counter alone P Q (.answered ticket answer) := by
  cases h with
  | waiting held => exact .answered held good

/-- The call comes back: it reports what it makes of the answer if its number is the last one drawn. -/
theorem Tracked.report {ticket : Nat} {answer : A} (h : Tracked counter alone P Q (.answered ticket answer)) {report : Option B}
    (hcurrent : ticket = counter → P answer → ∃ b, report = some b ∧ Q b) (hold : ticket ≠ counter → report = none) :
    Tracked counter alone P Q (.done report) := by
  cases h with
  | answered held good =>
    refine .done (fun ha => hcurrent (held.current_iff.2 ha) good) fun hn => hold fun heq => ?_
    exact hn (held.current_iff.1 heq)

theorem Tracked.mono (h : Tracked counter alone P Q c) (hP : ∀ a, P a → P' a) (hQ : ∀ b, Q b → Q' b) :
    Tracked counter alone P' Q' c := by
  cases h with
  | waiting held => exact .waiting held
  | answered held good => exact .answered held (hP _ good)
  | done reports overtaken =>
    refine .done (fun ha => ?_) overtaken
    obtain ⟨b, hb, hq⟩ := reports ha
    exact ⟨b, hb, hQ b hq⟩

end Ticketed

end Boxplot.Lib
