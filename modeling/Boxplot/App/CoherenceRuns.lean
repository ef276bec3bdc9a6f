import Boxplot.App.CoherenceSteps
/-!
# Sessions and body capabilities agree

When a `connect` of the composed runtime has resolved, the account's body
capability is the one of its session until the account is disconnected or the
session expires. So it is in every run in which nothing disturbs a `connect`
that has not resolved yet. A late failure of an earlier refresh may, and a
`disconnect` between the installation of the session and the activation of the
capability.
-/

namespace Boxplot.App

open Domain Lib Remote

/-! ## Every undisturbed run -/

/-- The account's capability is active, and is the one of the session that the call installed, unless something ended the
session since. -/
def RuntimeState.Serves (w : RuntimeState) (x : Connected) : Prop :=
  w.Unended x → w.isConnected x.accountKey = true ∧
    ∃ capability, w.capabilities.active.get? x.accountKey = some capability ∧ capability.session = x.session

/-- A call that resolved with an account is one of those that connected it. -/
def ConnectionsServe (c : Pool AppCall AppReply (Except Rejection AppResult) RuntimeState) : Prop :=
  ∀ t accountKey, c.threads t = some (.pure (.ok (some accountKey))) →
    ∃ x ∈ c.world.connected, x.call = t ∧ x.accountKey = accountKey ∧ c.world.Serves x

theorem RuntimeState.Coherent.serves {w : RuntimeState} (h : w.Coherent) {x : Connected} (hx : x ∈ w.connected) : w.Serves x := by
  intro hun
  obtain ⟨⟨e, he, -⟩, capability, hactive, hsession, hgeneration⟩ := (h.live x hx).2 hun
  refine ⟨?_, capability, hactive, hsession⟩
  simp [RuntimeState.isConnected, CapabilityState.isConnected, hactive, hgeneration, (h.current _ e he).1]

/-- However the calls come between each other, on any accounts. -/
theorem capability_coherence {c : Pool AppCall AppReply (Except Rejection AppResult) RuntimeState}
    (h : (remoteRuntime RuntimeState.Undisturbed).Run (System.idle .initial) c) : ConnectionsServe c := by
  have hstarts : ∀ p, (remoteRuntime RuntimeState.Undisturbed).starts p → coherenceContract.wp p Resolves .idle := by
    rintro p (⟨accountKey, serviceKey, rfl⟩ | ⟨accountKey, rfl⟩ | ⟨accountKey, rfl⟩)
    · exact wp_connectWithBody accountKey serviceKey
    · exact wp_disconnectWithBody accountKey
    · exact wp_refreshAccountWithBody accountKey
  have hinit : RuntimeState.initial.Coherent := ⟨rfl, by rintro k e ⟨⟩, by rintro x ⟨⟩⟩
  have hI : (remoteRuntime RuntimeState.Undisturbed).Invariant coherenceContract .idle .initial CoherenceInvariant := by
    refine ⟨⟨hinit, by rintro t st ⟨⟩⟩, ?_, ?_, ?_, ?_, ?_⟩
    · exact fun p hp => coherenceContract.wp_mono (fun _ _ _ => trivial) (hstarts p hp)
    · intro w w' n σ t st e r hw _ ht hmay hp
      exact hw.call ht hmay hp.1 hp.2
    · intro w n σ hw _
      exact hw.stage hw.1 (fun _ _ _ _ hst => hst) trivial
    · rintro w n σ t hw
      refine ⟨hw.1, fun u st hu => ?_⟩
      by_cases hut : u = t
      · subst hut
        rw [Function.update_self] at hu
        cases hu
      · rw [Function.update_of_ne hut] at hu
        exact hw.2 u st hu
    · rintro w w' n σ hw ⟨accountKey, remoteRef, hnone, rfl⟩
      have haccounts (k : AccountKey) (r : RemoteAccountRef) (hr : w.accounts.get? k = some r) :
          (w.accounts.set accountKey remoteRef).get? k = some r := by
        have hk : k ≠ accountKey := by
          rintro rfl
          rw [hnone] at hr
          cases hr
        rw [OrderedMap.get?_set_ne _ _ hk]
        exact hr
      have hq : w.Quiet { w with accounts := w.accounts.set accountKey remoteRef } :=
        { RuntimeState.Quiet.refl hw.1 with accounts := haccounts }
      exact ⟨hq.coherent hw.1, fun t st ht => hq.keeps.holds (hw.2 t st ht)⟩
  obtain ⟨σ, hw, -, hstaged⟩ := System.Run.sound_to hI hstarts h
  intro t accountKey ht
  obtain ⟨st, hst, hresolves⟩ := hstaged t _ ht
  obtain ⟨session, rfl⟩ := hresolves accountKey rfl
  obtain ⟨x, hx, hcall, hkey, -⟩ := hw.2 t _ hst
  exact ⟨x, hx, hcall, hkey, hw.1.serves hx⟩

/-! ## Runs -/

/-- Reads of accounts succeed. -/
def RuntimeState.ReadsSucceed (_ : RuntimeState) (_ : Nat) : (c : AppCall) → AppReply c → Prop
  | .readAccount _, r => r ≠ none
  | _, _ => True

instance (w : RuntimeState) (t : Nat) (c : AppCall) (r : AppReply c) : Decidable (w.ReadsSucceed t c r) := by
  revert r
  apply AppCall.casesOn (motive := fun c => (r : AppReply c) → Decidable (RuntimeState.ReadsSucceed w t c r)) c
  case readAccount => exact fun _ r => inferInstanceAs (Decidable (r ≠ none))
  all_goals intros; exact instDecidableTrue

section

variable (allowed : RuntimeState → Nat → (c : AppCall) → AppReply c → Prop) [∀ w t c r, Decidable (allowed w t c r)]

/-- The answers, where the step is allowed. -/
def answerWithin (outcome : Nat → Except Rejection Unit) (i : Nat) (w : RuntimeState) (t : Nat) (c : AppCall) :
    Option (AppReply c × RuntimeState) :=
  (w.answer outcome i t c).filter fun rw => decide (allowed w t c rw.1)

theorem run_of_moves {outcome : Nat → Except Rejection Unit}
    {moves : List (System.Move AppCall AppReply (Except Rejection AppResult))}
    (hstarts : ∀ p, .start p ∈ moves → (remoteRuntime allowed).starts p)
    {c : Pool AppCall AppReply (Except Rejection AppResult) RuntimeState}
    (hc : System.playMoves (answerWithin allowed outcome) moves 0 (System.idle .initial) = some c) :
    (remoteRuntime allowed).Run (System.idle .initial) c := by
  have hperforms : ∀ i w t e r w', answerWithin allowed outcome i w t e = some (r, w') → (remoteRuntime allowed).perform w t e r w' := by
    intro i w t e r w' h
    obtain ⟨hanswer, hallowed⟩ := Option.filter_eq_some_iff.1 h
    exact ⟨of_decide_eq_true hallowed, RuntimeState.answer_performs hanswer⟩
  exact System.Run.of_moves hperforms hstarts hc

end

/-- What call `t` gave, and how the account stands. -/
def observe (t : Nat) (accountKey : AccountKey) (c : Pool AppCall AppReply (Except Rejection AppResult) RuntimeState) :
    Option (Except Rejection AppResult) × List Connected × List Ending × Bool :=
  let result := match c.threads t with
    | some (.pure r) => some r
    | _ => none
  (result, c.world.connected, c.world.endings, c.world.isConnected accountKey)

/-- A refresh is under way when its account is disconnected, and fails before the account is connected again or, if late, after
that began. -/
def overtakenRefresh (late : Bool) : List (System.Move AppCall AppReply (Except Rejection AppResult)) :=
  let failure := List.replicate 3 (.call 1)
  [.start (connectWithBody "a" "s").run] ++ List.replicate 17 (.call 0) ++
  [.start (refreshAccountWithBody "a").run] ++ List.replicate 2 (.call 1) ++
  [.start (disconnectWithBody "a").run] ++ List.replicate 3 (.call 2) ++
  (if late then [] else failure) ++
  [.start (connectWithBody "a" "s").run] ++ List.replicate 2 (.call 3) ++
  (if late then failure else []) ++
  List.replicate 13 (.call 3)

theorem overtakenRefresh_starts {allowed : RuntimeState → Nat → (c : AppCall) → AppReply c → Prop} {late : Bool} :
    ∀ p, .start p ∈ overtakenRefresh late → (remoteRuntime allowed).starts p := by
  intro p hp
  cases late <;> simp [overtakenRefresh] at hp <;> rcases hp with rfl | rfl | rfl | rfl
  all_goals first
    | exact .inl ⟨_, _, rfl⟩
    | exact .inr (.inl ⟨_, rfl⟩)
    | exact .inr (.inr ⟨_, rfl⟩)

theorem capability_coherence_reconnected : ∃ c, (remoteRuntime RuntimeState.Undisturbed).Run (System.idle .initial) c ∧
    observe 3 "a" c = (some (.ok (some "a")), [⟨3, "a", 1, 1⟩, ⟨0, "a", 0, 0⟩], [.disconnected "a"], true) ∧ ConnectionsServe c := by
  have hplay : (System.playMoves (answerWithin RuntimeState.Undisturbed fun _ => .ok ()) (overtakenRefresh false) 0
      (System.idle .initial)).map (observe 3 "a") =
      some (some (.ok (some "a")), [⟨3, "a", 1, 1⟩, ⟨0, "a", 0, 0⟩], [.disconnected "a"], true) := by decide +kernel
  obtain ⟨c, hc, hobserve⟩ := Option.map_eq_some_iff.1 hplay
  have hrun := run_of_moves RuntimeState.Undisturbed overtakenRefresh_starts hc
  exact ⟨c, hrun, hobserve, capability_coherence hrun⟩

/-- The late failure finds the account connecting, and invalidates the capability that is to come. -/
theorem late_refresh_disconnects : ∃ c, (remoteRuntime RuntimeState.ReadsSucceed).Run (System.idle .initial) c ∧
    observe 3 "a" c = (some (.ok (some "a")), [⟨3, "a", 1, 1⟩, ⟨0, "a", 0, 0⟩], [.disconnected "a"], false) ∧
    ¬ ConnectionsServe c := by
  have hplay : (System.playMoves (answerWithin RuntimeState.ReadsSucceed fun _ => .ok ()) (overtakenRefresh true) 0
      (System.idle .initial)).map (observe 3 "a") =
      some (some (.ok (some "a")), [⟨3, "a", 1, 1⟩, ⟨0, "a", 0, 0⟩], [.disconnected "a"], false) := by decide +kernel
  obtain ⟨c, hc, hobserve⟩ := Option.map_eq_some_iff.1 hplay
  refine ⟨c, run_of_moves RuntimeState.ReadsSucceed overtakenRefresh_starts hc, hobserve, fun hserve => ?_⟩
  simp only [observe, Prod.mk.injEq] at hobserve
  obtain ⟨hresult, hconnected, hendings, hisConnected⟩ := hobserve
  have ht : c.threads 3 = some (.pure (.ok (some "a"))) := by
    split at hresult
    · rename_i hthread
      rw [hthread, Option.some.inj hresult]
    · cases hresult
  obtain ⟨x, hx, hcall, -, hserves⟩ := hserve 3 "a" ht
  -- the call's session has not ended
  obtain rfl : x = ⟨3, "a", 1, 1⟩ := by
    rw [hconnected] at hx
    rcases List.mem_cons.1 hx with rfl | hx
    · rfl
    · rw [List.mem_singleton.1 hx] at hcall
      cases hcall
  have hun : c.world.Unended ⟨3, "a", 1, 1⟩ := by
    unfold RuntimeState.Unended
    rw [hendings]
    rintro ending ⟨⟩
  have htrue := (hserves hun).1
  rw [hisConnected] at htrue
  cases htrue

end Boxplot.App
