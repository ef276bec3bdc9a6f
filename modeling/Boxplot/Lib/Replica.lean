import Mathlib.Data.List.Basic
/-!
# Replicas

A copy of the rows that a server has under a state, kept by updates that
replace everything or say what is different from an earlier state. Whoever
updates it need not know of anyone else who does: it is enough that an update
goes through only where the copy is still at the state the server was asked
with.

A row of the copy is made of the server's by `view`, which may refuse one. What
the copy has for a row that was refused is left open, and so is what it has
where someone wrote over it, until an update settles the row again.
-/

namespace Boxplot.Lib

variable {S K W V : Type}

/-- What a server sends: all its rows, or those that changed and the keys of those that are gone. -/
inductive Update (S K W : Type)
  | replace (state : S) (rows : List W)
  | delta (state : S) (changed : List W) (destroyed : List K)

def Update.state : Update S K W → S
  | .replace state _ => state
  | .delta state _ _ => state

/-- The rows an update names. -/
def Update.named : Update S K W → List W
  | .replace _ rows => rows
  | .delta _ changed _ => changed

/-- An update says what the row under the key is. -/
def Update.settles (key : W → K) : Update S K W → K → Prop
  | .replace _ _, _ => True
  | .delta _ changed destroyed, k => k ∈ changed.map key ∨ k ∈ destroyed

/-- The rows of a server at each of its states, which say what their keys are. -/
structure Source (S : Type) {K W : Type} (key : W → K) where
  rows : S → K → Option W
  key_eq : ∀ s k w, rows s k = some w → key w = k

namespace Source

variable {key : W → K} (R : Source S key)

/-- The update is what the server has at its state; a delta is relative to the state the server was asked with. -/
def Honest (previous : Option S) : Update S K W → Prop
  | .replace state rows => ∀ w, w ∈ rows ↔ R.rows state (key w) = some w
  | .delta state changed destroyed => ∃ u, previous = some u ∧ (∀ w ∈ changed, R.rows state (key w) = some w) ∧
      (∀ k ∈ destroyed, R.rows state k = none) ∧ ∀ k, k ∉ changed.map key → k ∉ destroyed → R.rows state k = R.rows u k

variable (view : W → Option V)

/-- What a copy should have where the server has `row`. -/
def Shows (copy : Option V) : Option W → Prop
  | none => copy = none
  | some w => ∀ v, view w = some v → copy = some v

/-- The copy is the server's rows at the cursor, or it has none and no cursor, but for what was written over. -/
def Mirrors (cursor : Option S) (written : K → Prop) (copy : K → Option V) : Prop :=
  ∀ k, ¬ written k → match cursor with
    | none => copy k = none
    | some state => Shows view (copy k) (R.rows state k)

/-- What an update does to the copy. -/
def Applies (key : W → K) (view : W → Option V) (copy copy' : K → Option V) : Update S K W → Prop
  | .replace _ rows => (∀ w ∈ rows, ∀ v, view w = some v → copy' (key w) = some v) ∧
      ∀ k, k ∉ rows.map key → copy' k = none
  | .delta _ changed destroyed => (∀ w ∈ changed, ∀ v, view w = some v → copy' (key w) = some v) ∧
      (∀ k, k ∉ changed.map key → k ∈ destroyed → copy' k = none) ∧
      ∀ k, k ∉ changed.map key → k ∉ destroyed → copy' k = copy k

variable {R view} {cursor : Option S} {written written' : K → Prop} {copy copy' : K → Option V} {sent : Update S K W}

/-- An honest update relative to the cursor keeps the copy a mirror, and settles rows that were written over. -/
theorem Mirrors.update (h : R.Mirrors view cursor written copy) (hu : R.Honest cursor sent) (ha : Applies key view copy copy' sent)
    (hw : ∀ k, written k → sent.settles key k ∨ written' k) : R.Mirrors view (some sent.state) written' copy' := by
  intro k hk'
  cases sent with
  | replace state rows =>
    obtain ⟨hrows, hother⟩ := ha
    change Shows view (copy' k) (R.rows state k)
    cases hk : R.rows state k with
    | none =>
      refine hother k fun hmem => ?_
      obtain ⟨w, hw, rfl⟩ := List.mem_map.1 hmem
      rw [(hu w).1 hw] at hk
      cases hk
    | some w =>
      obtain rfl := R.key_eq state k w hk
      exact hrows w ((hu w).2 hk)
  | delta state changed destroyed =>
    obtain ⟨u, rfl, hchanged, hdestroyed, hsame⟩ := hu
    obtain ⟨hnew, hgone, hkept⟩ := ha
    change Shows view (copy' k) (R.rows state k)
    by_cases hc : k ∈ changed.map key
    · obtain ⟨w, hw, rfl⟩ := List.mem_map.1 hc
      rw [hchanged w hw]
      exact hnew w hw
    by_cases hd : k ∈ destroyed
    · rw [hdestroyed k hd, hgone k hc hd]
      rfl
    · rw [hsame k hc hd, hkept k hc hd]
      refine h k fun hwritten => ?_
      rcases hw k hwritten with (hc' | hd') | hw'
      · exact hc hc'
      · exact hd hd'
      · exact hk' hw'

/-- What is written over leaves the rest of the copy a mirror. -/
theorem Mirrors.write (h : R.Mirrors view cursor written copy) (hw : ∀ k, ¬ written' k → ¬ written k ∧ copy' k = copy k) :
    R.Mirrors view cursor written' copy' := by
  intro k hk
  obtain ⟨hk, hcopy⟩ := hw k hk
  rw [hcopy]
  exact h k hk

/-- No row of the server is refused at the cursor. -/
def Accepted (R : Source S key) (view : W → Option V) (cursor : Option S) : Prop :=
  ∀ state, cursor = some state → ∀ k w, R.rows state k = some w → (view w).isSome

/-- Where an update has no row that is refused, none is refused at its state. -/
theorem Accepted.update (h : R.Accepted view cursor) (hu : R.Honest cursor sent) (hn : ∀ w ∈ sent.named, (view w).isSome) :
    R.Accepted view (some sent.state) := by
  rintro _ ⟨⟩ k w hk
  cases sent with
  | replace state rows =>
    obtain rfl := R.key_eq state k w hk
    exact hn w ((hu w).2 hk)
  | delta state changed destroyed =>
    obtain ⟨u, rfl, hchanged, hdestroyed, hsame⟩ := hu
    by_cases hc : k ∈ changed.map key
    · obtain ⟨w', hw', rfl⟩ := List.mem_map.1 hc
      obtain rfl : w' = w := Option.some.inj ((hchanged w' hw').symm.trans hk)
      exact hn w' hw'
    by_cases hd : k ∈ destroyed
    · rw [Update.state, hdestroyed k hd] at hk
      cases hk
    · rw [Update.state, hsame k hc hd] at hk
      exact h u rfl k w hk

end Source

end Boxplot.Lib
