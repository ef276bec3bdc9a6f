import Boxplot.Lib.Turns
/-!
# Records that only move forward

A store of records under keys, over a run. A turn creates a record under a key
that is new, moves one forward, or removes one that is done. Then no record
returns to what it was, and of the replacements that name one record at most
one goes through.
-/

namespace Boxplot.Lib

variable {S I K V R : Type}

/-- What a turn may do to the record under a key. -/
inductive Moves (forward : V → V → Prop) (done : V → Prop) : Option V → Option V → Prop
  | kept (o : Option V) : Moves forward done o o
  | created (v : V) : Moves forward done none (some v)
  | moved {v v' : V} : forward v v' → Moves forward done (some v) (some v')
  | removed {v : V} : done v → Moves forward done (some v) none

/-- After the history, a step moves records forward, and creates none under a key that has been used. -/
structure StepsForward (stored : S → K → Option V) (forward : V → V → Prop) (done : V → Prop) (h : List (Turn S I)) (s s' : S) :
    Prop where
  moves : ∀ k, Moves forward done (stored s k) (stored s' k)
  new : ∀ k, stored s k = none → stored s' k ≠ none → ∀ t ∈ h, stored t.after k = none

section
variable {stored : S → K → Option V} {forward : V → V → Prop} {done : V → Prop} {h : List (Turn S I)} {s s' : S}

/-- A step that changes the record under one key. -/
theorem StepsForward.at [DecidableEq K] (key : K) (hmoves : Moves forward done (stored s key) (stored s' key))
    (hnew : stored s key = none → stored s' key ≠ none → ∀ t ∈ h, stored t.after key = none)
    (hother : ∀ k, k ≠ key → stored s' k = stored s k) : StepsForward stored forward done h s s' where
  moves k := by
    by_cases hk : k = key
    · rw [hk]
      exact hmoves
    · rw [hother k hk]
      exact .kept _
  new k hbefore hafter := by
    by_cases hk : k = key
    · subst hk
      exact hnew hbefore hafter
    · rw [hother k hk] at hafter
      exact absurd hbefore hafter

/-- A step that changes no record. -/
theorem StepsForward.same (hsame : ∀ k, stored s' k = stored s k) : StepsForward stored forward done h s s' where
  moves k := by
    rw [hsame k]
    exact .kept _
  new k hbefore hafter := by
    rw [hsame k] at hafter
    exact absurd hbefore hafter

variable {init : S} {step : S → I → Option S} {allowed : List (Turn S I) → I → Prop}

/-- The state after a history is its initial state, or the one after a turn of it. -/
theorem last_eq_or_mem (init : S) (h : List (Turn S I)) : last init h = init ∨ ∃ t ∈ h, t.after = last init h := by
  rcases List.eq_nil_or_concat h with rfl | ⟨rest, t, rfl⟩
  · exact .inl rfl
  · rw [List.concat_eq_append, last_snoc]
    exact .inr ⟨t, List.mem_append_right _ (List.mem_singleton_self _), rfl⟩

/-- A record is still the same later, or has moved forward. -/
theorem Turns.recordForward (htrans : ∀ u v w, forward u v → forward v w → forward u w) (hempty : ∀ k, stored init k = none)
    (hstep : ∀ h i s', Turns init step allowed h → allowed h i → step (last init h) i = some s' →
      StepsForward stored forward done h (last init h) s')
    {pre : List (Turn S I)} {k : K} {v : V} (hv : stored (last init pre) k = some v) :
    ∀ post, Turns init step allowed (pre ++ post) → ∀ v', stored (last init (pre ++ post)) k = some v' → v' = v ∨ forward v v' := by
  intro post
  induction post using List.reverseRecOn with
  | nil =>
    intro _ v' hv'
    rw [List.append_nil, hv] at hv'
    exact .inl (Option.some.inj hv').symm
  | append_singleton post t ih =>
    intro hr v' hv'
    rw [← List.append_assoc] at hr hv'
    obtain ⟨hpre, hbefore, ha, hs⟩ := hr.turn (pre ++ post) t [] rfl
    rw [hbefore] at hs
    rw [last_snoc] at hv'
    have hforward := hstep _ _ _ hpre ha hs
    have hmoves := hforward.moves k
    cases hnow : stored (last init (pre ++ post)) k with
    | none =>
      -- the record would be created a second time
      have hfresh := hforward.new k hnow (by simp [hv'])
      rcases last_eq_or_mem init pre with hinit | ⟨t', ht', hafter⟩
      · rw [hinit, hempty k] at hv
        cases hv
      · rw [← hafter, hfresh t' (List.mem_append_left _ ht')] at hv
        cases hv
    | some w =>
      have hw := ih hpre w hnow
      rw [hnow, hv'] at hmoves
      cases hmoves with
      | kept => exact hw
      | moved hmoved =>
        rcases hw with rfl | hw
        · exact .inr hmoved
        · exact .inr (htrans _ _ _ hw hmoved)

end

/-! ## Linear histories -/

/-- Records only move forward, of the replacements that name one record at most one goes through, and only a record that is
done is removed. -/
structure Linear [Preorder R] (stored : S → K → Option V) (keyOf : V → K) (rank : V → R) (same : V → V → Prop) (done : V → Prop)
    (replaces : Turn S I → V → Prop) (init : S) (h : List (Turn S I)) : Prop where
  forward : ∀ pre post, h = pre ++ post → ∀ k v v', stored (last init pre) k = some v → stored (last init h) k = some v' →
    v' = v ∨ rank v < rank v' ∧ same v v'
  once : ∀ pre t post, h = pre ++ t :: post → ∀ t' ∈ post, ∀ v v', replaces t v → replaces t' v' → keyOf v = keyOf v' →
    rank v ≠ rank v'
  done : ∀ t ∈ h, ∀ k v, stored t.before k = some v → stored t.after k = none → done v

/-- A replacement that names `e` moves on the record under its key, which has its rank. -/
def Replaces [Preorder R] (stored : S → K → Option V) (keyOf : V → K) (rank : V → R) (s s' : S) (e : V) : Prop :=
  ∃ v v', stored s (keyOf e) = some v ∧ stored s' (keyOf e) = some v' ∧ rank v = rank e ∧ rank v < rank v'

theorem linear_of_steps [Preorder R] {stored : S → K → Option V} {keyOf : V → K} {rank : V → R} {same : V → V → Prop}
    {done : V → Prop} {replaces : Turn S I → V → Prop} {init : S} {step : S → I → Option S}
    {allowed : List (Turn S I) → I → Prop} {h : List (Turn S I)} (hsame : ∀ u v w, same u v → same v w → same u w)
    (hempty : ∀ k, stored init k = none)
    (hstep : ∀ h i s', Turns init step allowed h → allowed h i → step (last init h) i = some s' →
      StepsForward stored (fun v v' => rank v < rank v' ∧ same v v') done h (last init h) s' ∧
        ∀ e, replaces ⟨last init h, i, s'⟩ e → Replaces stored keyOf rank (last init h) s' e)
    (hr : Turns init step allowed h) : Linear stored keyOf rank same done replaces init h := by
  have htrans (u v w : V) (huv : rank u < rank v ∧ same u v) (hvw : rank v < rank w ∧ same v w) : rank u < rank w ∧ same u w :=
    ⟨huv.1.trans hvw.1, hsame u v w huv.2 hvw.2⟩
  have hsteps := fun h i s' hr ha hs => (hstep h i s' hr ha hs).1
  have hturn : ∀ pre t post, h = pre ++ t :: post → Turns init step allowed pre ∧ t.before = last init pre ∧
      StepsForward stored (fun v v' => rank v < rank v' ∧ same v v') done pre t.before t.after ∧
        ∀ e, replaces t e → Replaces stored keyOf rank t.before t.after e := by
    intro pre t post he
    obtain ⟨hpre, hbefore, ha, hs⟩ := hr.turn pre t post he
    obtain ⟨before, i, after⟩ := t
    obtain rfl : before = last init pre := hbefore
    obtain ⟨hforward, hreplaces⟩ := hstep _ _ _ hpre ha hs
    exact ⟨hpre, rfl, hforward, hreplaces⟩
  refine ⟨?_, ?_, ?_⟩
  · rintro pre post rfl k v v' hv hv'
    exact Turns.recordForward htrans hempty hsteps hv post hr v' hv'
  · intro pre t post he t' ht' e e' hreplaces hreplaces' hkey hrank
    obtain ⟨-, -, -, hold⟩ := hturn pre t post he
    obtain ⟨v, v', -, hv', hrankv, hlt⟩ := hold e hreplaces
    obtain ⟨mid, rest, rfl⟩ := List.append_of_mem ht'
    have he' : h = (pre ++ [t] ++ mid) ++ t' :: rest := by rw [he]; simp
    obtain ⟨hpre', hbefore', -, hnew⟩ := hturn _ t' rest he'
    obtain ⟨w, w', hw, -, hrankw, -⟩ := hnew e' hreplaces'
    -- the first replacement has moved the record beyond the rank that the second one names
    have hlater : w = v' ∨ rank v' < rank w ∧ same v' w := by
      refine Turns.recordForward htrans hempty hsteps (k := keyOf e) ?_ mid hpre' w ?_
      · rw [last_snoc]
        exact hv'
      · rw [← hbefore', hkey]
        exact hw
    have hle : rank v' ≤ rank w := by
      rcases hlater with rfl | hlater
      · exact le_rfl
      · exact hlater.1.le
    rw [hrankw, ← hrank, ← hrankv] at hle
    exact absurd (hlt.trans_le hle) (lt_irrefl _)
  · intro t ht k v hv hnone
    obtain ⟨pre, post, he⟩ := List.append_of_mem ht
    obtain ⟨-, -, hforward, -⟩ := hturn pre t post he
    have hmoves := hforward.moves k
    rw [hv, hnone] at hmoves
    cases hmoves with
    | removed hdone => exact hdone

end Boxplot.Lib
