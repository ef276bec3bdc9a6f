import Mathlib
import Boxplot.App.MutationRuns
import Boxplot.Outbox.Confirmed
/-!
# Confirmations and concurrent refreshes

A run confirms a mutation by two refreshes, and a refresh reports nothing once
another has begun. The confirmation is kept just in the runs where no other
refresh begins while one of the run's two is in flight.
-/

namespace Boxplot.App

open Domain Lib Outbox

abbrev RunHistory := List (Turn Controller RunInput)

variable (accountKey : AccountKey) (mutationId : MutationId)

/-! ## The runs considered -/

/-- A record that is gone does not come back, and only the lifecycle of one that is there changes. -/
def keepsPayload (before after : Option PendingMutation) : Bool :=
  after.all fun m' => before.any fun m => m'.payload = m.payload

/-- The runner can find the mutation. -/
def findable (s : Controller) : Bool := s.run.isRunning && (s.stored mutationId).isSome

/-- The mutation is there when the run starts, and confirmed by the runner only after the runner has found it and it was
removed. Reads succeed, and the controller is not disposed. -/
def admits (found : Bool) (s : Controller) : RunInput → Bool
  | .start => (s.stored mutationId).isSome
  | .outcome .confirmed => found && (s.stored mutationId).isNone
  | .write next => s.run = .notStarted || keepsPayload (s.stored mutationId) (findMutation mutationId (mutationsOf next))
  | .readFails _ _ => false
  | .dispose => false
  | _ => true

/-- The runner could find the mutation in one of the turns. -/
def everFindable (h : RunHistory) : Bool := h.any fun t => findable mutationId t.before

def runAllowed (init : Controller) (h : RunHistory) (i : RunInput) : Prop :=
  admits mutationId (everFindable mutationId h) (last init h) i = true

instance (init : Controller) (h : RunHistory) (i : RunInput) : Decidable (runAllowed mutationId init h i) :=
  inferInstanceAs (Decidable (_ = true))

abbrev MutationRuns (init : Controller) : RunHistory → Prop :=
  Turns init (runTurn accountKey mutationId) (runAllowed mutationId init)

/-- The mutation, if the input starts its run. -/
def startedBy (s : Controller) : RunInput → Option PendingMutation
  | .start => s.stored mutationId
  | _ => none

/-- The mutation as it was when the run started. -/
def started (h : RunHistory) : Option PendingMutation := h.findSome? fun t => startedBy mutationId t.before t.input

/-- The run waits for its refresh. -/
def Controller.refreshing (s : Controller) : Bool := (s.refreshes .run).any Ticketed.inFlight

/-- The input does not begin a refresh while the run waits for its own. -/
def quiet (s : Controller) : RunInput → Bool
  | .refresh _ => !s.refreshing
  | _ => true

/-- No other refresh begins while the run waits for one of its own. -/
def Calm (h : RunHistory) : Prop := ∀ t ∈ h, quiet t.before t.input = true

variable {accountKey mutationId} {s s' : Controller} {h : RunHistory} {i : RunInput} {m : PendingMutation}

/-- No outcome of the runner is left out: it confirms only what it has found and what is gone when it ends. -/
theorem admits_outcome {deps : MutationRunnerDependencies} {outcome : MutationExecutionOutcome} {w w' : WatchedMutation}
    (hrun : Exec (WatchedMutation.perform accountKey mutationId) (runMutation deps accountKey mutationId).run w (some (.ok outcome)) w')
    (hstored : s.stored mutationId = w'.stored) : admits mutationId w'.found s (.outcome outcome) = true := by
  have hgone := runMutation_foundAndGone hrun
  cases outcome with
  | confirmed =>
    obtain ⟨hfound, hnone⟩ := hgone rfl
    simp [admits, hstored, hfound, hnone]
  | _ => rfl

/-! ## One turn more -/

theorem calm_snoc {t : Turn Controller RunInput} : Calm (h ++ [t]) ↔ Calm h ∧ quiet t.before t.input = true := by
  simp [Calm, or_imp, forall_and]

theorem everFindable_snoc {t : Turn Controller RunInput} :
    everFindable mutationId (h ++ [t]) = (everFindable mutationId h || findable mutationId t.before) := by
  simp [everFindable]

theorem started_snoc {t : Turn Controller RunInput} :
    started mutationId (h ++ [t]) = (started mutationId h).or (startedBy mutationId t.before t.input) := by
  unfold started
  rw [List.findSome?_append, List.findSome?_singleton]

/-! ## Where a run stands -/

/-- The record is `m`, but for its lifecycle. -/
def Same (m : PendingMutation) (stored : Option PendingMutation) : Prop := ∀ m', stored = some m' → m'.payload = m.payload

/-- If the record is still there, then `values` has it. -/
def Lists (mutationId : MutationId) (m : PendingMutation) (stored : Option PendingMutation) (values : List PendingMutation) : Prop :=
  stored ≠ none → ∃ m', findMutation mutationId values = some m' ∧ m'.payload = m.payload

def Lacks (mutationId : MutationId) (values : List PendingMutation) : Prop := findMutation mutationId values = none

/-- The repository has answered, with a listing in `Q`. -/
def Answers (Q : List PendingMutation → Prop) (answer : Except LocalReadError Listing) : Prop :=
  ∃ listing, answer = .ok listing ∧ Q (mutationsOf listing)

/-- Where a run stands that began with `m`: what its refreshes have told it if it was `calm`, and that they have told it
nothing otherwise. -/
inductive Stage (accountKey : AccountKey) (mutationId : MutationId) (calm : Prop) (found : Bool) (s : Controller) :
    RunState → Option PendingMutation → Prop
  | notStarted (hr : s.refreshes .run = none) (hcalm : calm) (hfound : found = false) :
      Stage accountKey mutationId calm found s .notStarted none
  | before {m : PendingMutation} {counter : Nat} {r : Refresh} (hr : s.refreshes .run = some r)
      (hcounter : s.mutationStatusGenerations.get? accountKey = some counter) (hfound : found = false)
      (hsame : Same m (s.stored mutationId))
      (ht : r.Tracked counter calm (Answers (Lists mutationId m (s.stored mutationId))) (Lists mutationId m (s.stored mutationId))) :
      Stage accountKey mutationId calm found s .before (some m)
  | running {m : PendingMutation} {known : Option PendingMutation} (hr : s.refreshes .run = none) (hsame : Same m (s.stored mutationId))
      (hknown : calm → (∃ m', known = some m' ∧ m'.payload = m.payload) ∨ (found = false ∧ s.stored mutationId = none))
      (hlost : ¬calm → known = none) : Stage accountKey mutationId calm found s (.running known) (some m)
  /-- The first refresh has reported nothing. -/
  | lost {m : PendingMutation} (hcalm : ¬calm) : Stage accountKey mutationId calm found s (.settling none .confirmed) (some m)
  | settling {m m' : PendingMutation} {counter : Nat} {r : Refresh} (hr : s.refreshes .run = some r)
      (hcounter : s.mutationStatusGenerations.get? accountKey = some counter) (hpayload : m'.payload = m.payload)
      (hgone : s.stored mutationId = none) (ht : r.Tracked counter calm (Answers (Lacks mutationId)) (Lacks mutationId)) :
      Stage accountKey mutationId calm found s (.settling (some m') .confirmed) (some m)
  | unconfirmed {m : PendingMutation} {known : Option PendingMutation} {outcome : MutationExecutionOutcome}
      (houtcome : outcome ≠ .confirmed) : Stage accountKey mutationId calm found s (.settling known outcome) (some m)
  | failing {m : PendingMutation} : Stage accountKey mutationId calm found s .failing (some m)
  | finished {m : PendingMutation} {outcome : Option MutationExecutionOutcome} :
      Stage accountKey mutationId calm found s (.finished outcome) (some m)

/-- The stage that a controller's run is in. -/
abbrev AtStage (accountKey : AccountKey) (mutationId : MutationId) (calm : Prop) (found : Bool) (s : Controller)
    (o : Option PendingMutation) : Prop :=
  Stage accountKey mutationId calm found s s.run o

variable {calm : Prop} {found : Bool} {o : Option PendingMutation} {counter : Nat} {before after : Option PendingMutation}

/-! ## What is kept -/

theorem keepsPayload_ne_none (h : keepsPayload before after = true) (ha : after ≠ none) : before ≠ none := by
  obtain ⟨m', rfl⟩ := Option.ne_none_iff_exists'.1 ha
  rintro rfl
  simp [keepsPayload] at h

theorem keepsPayload_self (stored : Option PendingMutation) : keepsPayload stored stored = true := by
  cases stored <;> simp [keepsPayload]

theorem Same.keeps (h : Same m before) (hkeeps : keepsPayload before after = true) : Same m after := by
  rintro m' rfl
  cases before with
  | none => simp [keepsPayload] at hkeeps
  | some m₀ =>
    have hpayload : m'.payload = m₀.payload := by simpa [keepsPayload] using hkeeps
    exact hpayload.trans (h m₀ rfl)

theorem Lists.keeps {values : List PendingMutation} (h : Lists mutationId m before values) (hkeeps : keepsPayload before after = true) :
    Lists mutationId m after values := fun ha => h (keepsPayload_ne_none hkeeps ha)

/-- While the record is `m`, its listing has it. -/
theorem Same.lists {listing : Listing} (h : Same m (findMutation mutationId (mutationsOf listing))) :
    Lists mutationId m (findMutation mutationId (mutationsOf listing)) (mutationsOf listing) := by
  intro hne
  obtain ⟨m', hm'⟩ := Option.ne_none_iff_exists'.1 hne
  exact ⟨m', hm', h m' hm'⟩

theorem Answers.mono {P Q : List PendingMutation → Prop} {answer : Except LocalReadError Listing} (h : Answers P answer)
    (hPQ : ∀ values, P values → Q values) : Answers Q answer := by
  obtain ⟨listing, rfl, hp⟩ := h
  exact ⟨listing, rfl, hPQ _ hp⟩

theorem findable_eq_false (hrun : s.run.isRunning = false) : findable mutationId s = false := by
  simp [findable, hrun]

/-! ## Turns that leave the run where it is -/

/-- The run has not gone on; its refresh may have, and others may have begun. -/
theorem Stage.keep {calm' : Prop} (hs : AtStage accountKey mutationId calm found s o) (hrun : s'.run = s.run)
    (hkeeps : s.run = .notStarted ∨ keepsPayload (s.stored mutationId) (s'.stored mutationId) = true) (hcalm : calm' → calm)
    (hidle : s.refreshes .run = none → s'.refreshes .run = none ∧ (calm → calm'))
    (hmove : ∀ r counter, s.refreshes .run = some r → s.mutationStatusGenerations.get? accountKey = some counter →
      ∃ r' counter', s'.refreshes .run = some r' ∧ s'.mutationStatusGenerations.get? accountKey = some counter' ∧
        ∀ Q : List PendingMutation → Prop, Q (mutationsOf s.repository) → r.Tracked counter calm (Answers Q) Q →
          r'.Tracked counter' calm' (Answers Q) Q) :
    AtStage accountKey mutationId calm' (found || findable mutationId s) s' o := by
  have hfind : s.run.isRunning = false → found = false → (found || findable mutationId s) = false := by
    intro h hfound
    rw [findable_eq_false h, hfound, Bool.or_false]
  unfold AtStage at hs ⊢
  rw [hrun]
  generalize s.run = run at hs hkeeps hfind
  cases hs with
  | notStarted hr hcalm₀ hfound =>
    obtain ⟨hr', hc⟩ := hidle hr
    exact .notStarted hr' (hc hcalm₀) (hfind rfl hfound)
  | before hr hcounter hfound hsame ht =>
    have hkeeps := hkeeps.resolve_left (by simp)
    obtain ⟨r', counter', hr', hcounter', ht'⟩ := hmove _ _ hr hcounter
    refine .before hr' hcounter' (hfind rfl hfound) (hsame.keeps hkeeps) ?_
    exact (ht' _ hsame.lists ht).mono (fun _ ha => ha.mono fun _ hl => hl.keeps hkeeps) fun _ hl => hl.keeps hkeeps
  | running hr hsame hknown hlost =>
    have hkeeps := hkeeps.resolve_left (by simp)
    obtain ⟨hr', hc⟩ := hidle hr
    refine .running hr' (hsame.keeps hkeeps) (fun h => ?_) fun hn => hlost fun h => hn (hc h)
    rcases hknown (hcalm h) with hk | ⟨hf, hnone⟩
    · exact .inl hk
    · refine .inr ⟨by simp [hf, findable, hnone], ?_⟩
      exact Classical.byContradiction fun hne => keepsPayload_ne_none hkeeps hne hnone
  | lost hn => exact .lost fun h => hn (hcalm h)
  | settling hr hcounter hpayload hgone ht =>
    have hkeeps := hkeeps.resolve_left (by simp)
    obtain ⟨r', counter', hr', hcounter', ht'⟩ := hmove _ _ hr hcounter
    refine .settling hr' hcounter' hpayload ?_ (ht' _ hgone ht)
    exact Classical.byContradiction fun hne => keepsPayload_ne_none hkeeps hne hgone
  | unconfirmed houtcome => exact .unconfirmed houtcome
  | failing => exact .failing
  | finished => exact .finished

/-- Neither the run nor its refresh has moved. -/
theorem Stage.same (hs : AtStage accountKey mutationId calm found s o) (hrun : s'.run = s.run) (hr : s'.refreshes .run = s.refreshes .run)
    (hcounter : s'.mutationStatusGenerations = s.mutationStatusGenerations)
    (hkeeps : s.run = .notStarted ∨ keepsPayload (s.stored mutationId) (s'.stored mutationId) = true) :
    AtStage accountKey mutationId calm (found || findable mutationId s) s' o := by
  refine hs.keep hrun hkeeps id (fun hn => ⟨hr.trans hn, id⟩) fun r counter hsome hc => ?_
  exact ⟨r, counter, hr.trans hsome, hcounter ▸ hc, fun _ _ ht => ht⟩

/-! ## Refreshes -/

theorem get?_beginRefresh (c : Caller) (hcounter : s.mutationStatusGenerations.get? accountKey = some counter) :
    (s.beginRefresh accountKey c).mutationStatusGenerations.get? accountKey = some (counter + 1) := by
  simp [Controller.beginRefresh, Controller.generation, hcounter]

theorem refreshing_some {r : Refresh} (hr : s.refreshes .run = some r) : s.refreshing = r.inFlight := by
  simp [Controller.refreshing, hr]

/-- Another refresh begins. -/
theorem Stage.refresh (hs : AtStage accountKey mutationId calm found s o) (n : Nat) :
    AtStage accountKey mutationId (calm ∧ s.refreshing = false) (found || findable mutationId s)
      (s.beginRefresh accountKey (.other n)) o := by
  have hother : (s.beginRefresh accountKey (.other n)).refreshes .run = s.refreshes .run := by
    simp [Controller.beginRefresh]
  refine hs.keep rfl (.inr (keepsPayload_self _)) And.left (fun hn => ?_) fun r counter hr hcounter => ?_
  · exact ⟨hother.trans hn, fun h => ⟨h, by simp [Controller.refreshing, hn]⟩⟩
  · refine ⟨r, counter + 1, hother.trans hr, get?_beginRefresh _ hcounter, fun Q _ ht => ?_⟩
    rw [refreshing_some hr]
    exact ht.overtake

/-- The run's refresh goes from `r` to `r'`. -/
theorem Stage.move (hs : AtStage accountKey mutationId calm found s o) {r r' : Refresh} {store : MutationStatusState}
    (hr : s.refreshes .run = some r)
    (hmove : ∀ counter, s.mutationStatusGenerations.get? accountKey = some counter → ∀ Q : List PendingMutation → Prop,
      Q (mutationsOf s.repository) → r.Tracked counter calm (Answers Q) Q → r'.Tracked counter calm (Answers Q) Q) :
    AtStage accountKey mutationId calm (found || findable mutationId s)
      { s with mutationStatusStore := store, refreshes := Function.update s.refreshes .run (some r') } o := by
  refine hs.keep rfl (.inr (keepsPayload_self _)) id (fun hn => ?_) fun r₀ counter hr₀ hcounter => ?_
  · rw [hr] at hn
    cases hn
  · obtain rfl := Option.some.inj (hr₀.symm.trans hr)
    exact ⟨r', counter, by simp, hcounter, hmove counter hcounter⟩

theorem resumeRefresh_current (hlive : s.disposed = false) (hcounter : s.mutationStatusGenerations.get? accountKey = some counter)
    (listing : Listing) : (s.resumeRefresh accountKey counter (.ok listing)).2 = some (mutationsOf listing) := by
  cases listing <;> simp [Controller.resumeRefresh, hlive, hcounter, mutationsOf]

theorem resumeRefresh_overtaken (hcounter : s.mutationStatusGenerations.get? accountKey = some counter) {ticket : Nat}
    (hne : ticket ≠ counter) (result : Except LocalReadError Listing) : (s.resumeRefresh accountKey ticket result).2 = none := by
  simp [Controller.resumeRefresh, hcounter, hne.symm]

/-- What an answer with a good listing makes the refresh report. -/
theorem tracked_resume {Q : List PendingMutation → Prop} {ticket : Nat} {result : Except LocalReadError Listing}
    (hlive : s.disposed = false) (hcounter : s.mutationStatusGenerations.get? accountKey = some counter)
    (ht : Ticketed.Tracked counter calm (Answers Q) Q (.answered ticket result)) :
    Ticketed.Tracked counter calm (Answers Q) Q (.done (s.resumeRefresh accountKey ticket result).2) := by
  refine ht.report ?_ fun hne => resumeRefresh_overtaken hcounter hne result
  rintro rfl ⟨listing, rfl, hq⟩
  exact ⟨_, resumeRefresh_current hlive hcounter listing, hq⟩

/-! ## Turns of the run -/

/-- The counter after the run's refresh has begun, and the refresh with the number it drew. -/
theorem beginRefresh_run (accountKey : AccountKey) (s : Controller) : ∃ counter,
    (s.beginRefresh accountKey .run).mutationStatusGenerations.get? accountKey = some counter ∧
    (s.beginRefresh accountKey .run).refreshes .run = some (.waiting counter) := by
  refine ⟨s.generation accountKey + 1, ?_, ?_⟩ <;> simp [Controller.beginRefresh]

theorem Stage.start (hs : AtStage accountKey mutationId calm found s o) (hrun : s.run = .notStarted) (hm : s.stored mutationId = some m) :
    AtStage accountKey mutationId calm (found || findable mutationId s) { s.beginRefresh accountKey .run with run := .before }
      (o.or (some m)) := by
  obtain ⟨counter, hcounter, hr⟩ := beginRefresh_run accountKey s
  have hfind : findable mutationId s = false := findable_eq_false (by rw [hrun]; rfl)
  rw [hfind, Bool.or_false]
  unfold AtStage at hs
  rw [hrun] at hs
  cases hs with
  | notStarted _ hcalm hfound =>
    refine .before hr hcounter hfound ?_ (.draw counter hcalm)
    intro m' hm'
    obtain rfl := Option.some.inj (hm.symm.trans hm')
    rfl

/-- The runner has answered. -/
theorem Stage.outcome {known : Option PendingMutation} (hs : AtStage accountKey mutationId calm found s o) (hrun : s.run = .running known)
    (hlive : s.disposed = false) {outcome : MutationExecutionOutcome}
    (hconfirmed : outcome = .confirmed → found = true ∧ s.stored mutationId = none) :
    AtStage accountKey mutationId calm (found || findable mutationId s) (s.settle accountKey mutationId known outcome) o := by
  obtain ⟨counter, hcounter, hr⟩ := beginRefresh_run accountKey s
  have hsettle : (s.settle accountKey mutationId known outcome).run = .settling known outcome := by
    simp [Controller.settle, hlive]
  unfold AtStage at hs ⊢
  rw [hsettle]
  rw [hrun] at hs
  cases hs with
  | running _ _ hknown hlost =>
    by_cases ho : outcome = .confirmed
    · obtain rfl := ho
      obtain ⟨hfound, hgone⟩ := hconfirmed rfl
      by_cases hcalm : calm
      · rcases hknown hcalm with ⟨m', rfl, hpayload⟩ | ⟨hf, -⟩
        · have hb : s.settle accountKey mutationId (some m') .confirmed =
              { s.beginRefresh accountKey .run with run := .settling (some m') .confirmed } := by
            simp [Controller.settle, hlive, Controller.beginRefresh]
          rw [hb]
          exact .settling hr hcounter hpayload hgone (.draw counter hcalm)
        · rw [hfound] at hf
          cases hf
      · obtain rfl := hlost hcalm
        exact .lost hcalm
    · exact .unconfirmed ho

theorem Stage.throws {known : Option PendingMutation} (hs : AtStage accountKey mutationId calm found s o) (hrun : s.run = .running known) :
    AtStage accountKey mutationId calm (found || findable mutationId s) { s.beginRefresh accountKey .run with run := .failing } o := by
  unfold AtStage at hs
  rw [hrun] at hs
  cases hs with
  | running _ _ _ _ => exact .failing

/-- The run goes on after a refresh. -/
theorem Stage.proceed (hs : AtStage accountKey mutationId calm found s o) {report : Option (List PendingMutation)}
    (hdone : s.refreshes .run = some (.done report)) (hproceed : s.proceed accountKey mutationId report = some s') :
    AtStage accountKey mutationId calm (found || findable mutationId s) s' o := by
  unfold AtStage at hs ⊢
  unfold Controller.proceed at hproceed
  dsimp only at hproceed
  cases hrun : s.run with
  | notStarted => simp [hrun] at hproceed
  | before =>
    rw [hrun] at hs hproceed
    have hfind : findable mutationId s = false := findable_eq_false (by rw [hrun]; rfl)
    rw [hfind, Bool.or_false]
    obtain rfl := Option.some.inj hproceed
    cases hs with
    | before hr hcounter hfound hsame ht =>
      obtain rfl := Option.some.inj (hr.symm.trans hdone)
      dsimp only
      split
      · exact .finished
      · cases ht with
        | done reports overtaken =>
          refine .running (by simp) hsame (fun hcalm => ?_) fun hcalm => ?_
          · obtain ⟨values, rfl, hlists⟩ := reports hcalm
            by_cases hne : s.stored mutationId = none
            · exact .inr ⟨hfound, hne⟩
            · exact .inl (hlists hne)
          · rw [overtaken hcalm]
            rfl
  | running known => simp [hrun] at hproceed
  | settling known outcome =>
    rw [hrun] at hs hproceed
    obtain rfl := Option.some.inj hproceed
    cases hs <;> exact .finished
  | failing =>
    rw [hrun] at hs hproceed
    obtain rfl := Option.some.inj hproceed
    cases hs
    exact .finished
  | finished outcome => simp [hrun] at hproceed

/-! ## Every turn -/

theorem Stage.turn (hs : AtStage accountKey mutationId calm found s o) (hlive : s.disposed = false)
    (hadmits : admits mutationId found s i = true) (hstep : runTurn accountKey mutationId s i = some s') :
    AtStage accountKey mutationId (calm ∧ quiet s i = true) (found || findable mutationId s) s' (o.or (startedBy mutationId s i)) := by
  cases i with
  | refresh n =>
    simp only [runTurn, Option.ite_none_right_eq_some, Option.some.injEq] at hstep
    obtain ⟨-, rfl⟩ := hstep
    simpa [quiet, startedBy] using hs.refresh n
  | read c =>
    simp only [runTurn] at hstep
    split at hstep
    · rename_i ticket hwaiting
      obtain rfl := Option.some.inj hstep
      simp only [quiet, startedBy, and_true, Option.or_none]
      cases c with
      | run => exact hs.move hwaiting fun counter _ Q hq ht => ht.answer ⟨_, rfl, hq⟩
      | other n => exact hs.same rfl (by simp) rfl (.inr (keepsPayload_self _))
    · cases hstep
  | readFails c error => cases hadmits
  | resume c =>
    simp only [runTurn] at hstep
    split at hstep
    · rename_i ticket result hanswered
      obtain rfl := Option.some.inj hstep
      simp only [quiet, startedBy, and_true, Option.or_none]
      cases c with
      | run => exact hs.move hanswered fun counter hcounter Q _ ht => tracked_resume hlive hcounter ht
      | other n => exact hs.same rfl (by simp) rfl (.inr (keepsPayload_self _))
    · cases hstep
  | start =>
    simp only [runTurn] at hstep
    split at hstep
    · rename_i hrun
      obtain rfl := Option.some.inj hstep
      obtain ⟨m, hm⟩ := Option.isSome_iff_exists.1 hadmits
      simp only [quiet, startedBy, and_true, hm]
      exact hs.start hrun hm
    · cases hstep
  | proceed =>
    simp only [runTurn] at hstep
    split at hstep
    · rename_i report hdone
      simp only [quiet, startedBy, and_true, Option.or_none]
      exact hs.proceed hdone hstep
    · cases hstep
  | outcome outcome =>
    simp only [runTurn] at hstep
    split at hstep
    · rename_i known hrun
      obtain rfl := Option.some.inj hstep
      simp only [quiet, startedBy, and_true, Option.or_none]
      refine hs.outcome hrun hlive ?_
      rintro rfl
      simpa [admits] using hadmits
    · cases hstep
  | throws =>
    simp only [runTurn] at hstep
    split at hstep
    · rename_i known hrun
      obtain rfl := Option.some.inj hstep
      simp only [quiet, startedBy, and_true, Option.or_none]
      exact hs.throws hrun
    · cases hstep
  | write next =>
    obtain rfl := Option.some.inj hstep
    simp only [quiet, startedBy, and_true, Option.or_none]
    have hkeeps : s.run = .notStarted ∨ keepsPayload (s.stored mutationId) (findMutation mutationId (mutationsOf next)) = true := by
      simpa [admits] using hadmits
    exact hs.same rfl rfl rfl hkeeps
  | dispose => cases hadmits

/-- Nothing but `dispose` disposes. -/
theorem runTurn_disposed (hadmits : admits mutationId found s i = true) (hstep : runTurn accountKey mutationId s i = some s') :
    s'.disposed = s.disposed := by
  cases i with
  | dispose => cases hadmits
  | proceed =>
    simp only [runTurn, Controller.proceed] at hstep
    split at hstep
    · split at hstep <;> cases hstep <;> rfl
    · cases hstep
  | outcome outcome =>
    simp only [runTurn] at hstep
    split at hstep
    · cases hstep
      unfold Controller.settle
      split <;> rfl
    · cases hstep
  | refresh n =>
    simp only [runTurn, Option.ite_none_right_eq_some, Option.some.injEq] at hstep
    obtain ⟨-, rfl⟩ := hstep
    rfl
  | read c | readFails c error | resume c | start | throws =>
    simp only [runTurn] at hstep
    split at hstep <;> cases hstep
    rfl
  | write next =>
    cases hstep
    rfl

/-! ## The store -/

/-- A finished run stays finished. -/
theorem runTurn_finished {outcome : Option MutationExecutionOutcome} (hrun : s.run = .finished outcome)
    (hstep : runTurn accountKey mutationId s i = some s') : s'.run = .finished outcome := by
  cases i with
  | refresh n =>
    simp only [runTurn, Option.ite_none_right_eq_some, Option.some.injEq] at hstep
    obtain ⟨-, rfl⟩ := hstep
    exact hrun
  | read c | readFails c error | resume c =>
    simp only [runTurn] at hstep
    split at hstep <;> cases hstep
    exact hrun
  | start | outcome outcome | throws => simp [runTurn, hrun] at hstep
  | proceed =>
    simp only [runTurn, Controller.proceed] at hstep
    split at hstep <;> simp [hrun] at hstep
  | write next | dispose =>
    cases hstep
    exact hrun

/-- Only a run that finishes makes a confirmation. -/
theorem runTurn_confirmation (hnone : s.mutationStatusStore.confirmation accountKey mutationId = none)
    (hstep : runTurn accountKey mutationId s i = some s') (hunfinished : ∀ outcome, s'.run ≠ .finished outcome) :
    s'.mutationStatusStore.confirmation accountKey mutationId = none := by
  cases i with
  | refresh n =>
    simp only [runTurn, Option.ite_none_right_eq_some, Option.some.injEq] at hstep
    obtain ⟨-, rfl⟩ := hstep
    exact hnone
  | read c | readFails c error | start | throws =>
    simp only [runTurn] at hstep
    split at hstep <;> cases hstep
    exact hnone
  | resume c =>
    simp only [runTurn] at hstep
    split at hstep <;> cases hstep
    unfold Controller.resumeRefresh
    split
    · exact hnone
    · split
      · exact hnone
      · exact MutationStatusState.confirmation_clearAccount _ _ _
      · exact hnone
  | proceed =>
    simp only [runTurn, Controller.proceed] at hstep
    split at hstep
    · split at hstep <;> cases hstep
      · exact hnone
      · exact absurd rfl (hunfinished _)
      · exact absurd rfl (hunfinished _)
    · cases hstep
  | outcome outcome =>
    simp only [runTurn] at hstep
    split at hstep <;> cases hstep
    unfold Controller.settle
    split
    · exact hnone
    · dsimp only
      split
      · rwa [MutationStatusState.confirmation_markNeedsReconciliation]
      · exact hnone
  | write next =>
    cases hstep
    exact hnone
  | dispose =>
    cases hstep
    rfl

/-! ## Every run -/

variable {init : Controller}

theorem MutationRuns.atStage (hr : MutationRuns accountKey mutationId init h)
    (h0 : init.run = .notStarted ∧ init.refreshes .run = none ∧ init.disposed = false) :
    (last init h).disposed = false ∧
      AtStage accountKey mutationId (Calm h) (everFindable mutationId h) (last init h) (started mutationId h) := by
  induction hr with
  | nil =>
    refine ⟨h0.2.2, ?_⟩
    have hcalm : Calm [] := by simp [Calm]
    unfold AtStage
    rw [last_nil, h0.1]
    exact .notStarted h0.2.1 hcalm rfl
  | @snoc h i s' hr ha hs ih =>
    rw [last_snoc, started_snoc, everFindable_snoc, propext calm_snoc]
    exact ⟨(runTurn_disposed ha hs).trans ih.1, ih.2.turn ih.1 ha hs⟩

/-- A store without the confirmation stays so until the run has finished. -/
theorem MutationRuns.unconfirmed (hr : MutationRuns accountKey mutationId init h)
    (h0 : init.mutationStatusStore.confirmation accountKey mutationId = none) (hrun : ∀ outcome, (last init h).run ≠ .finished outcome) :
    (last init h).mutationStatusStore.confirmation accountKey mutationId = none := by
  induction hr with
  | nil => exact h0
  | @snoc h i s' hr ha hs ih =>
    rw [last_snoc] at hrun ⊢
    refine runTurn_confirmation (ih fun outcome hfinished => ?_) hs hrun
    exact hrun outcome (runTurn_finished hfinished hs)

/-! ## The turn that finishes a confirmed run -/

theorem runTurn_finishes (hlive : s.disposed = false) (hstep : runTurn accountKey mutationId s i = some s')
    (hbefore : s.run ≠ .finished (some .confirmed)) (hafter : s'.run = .finished (some .confirmed)) :
    i = .proceed ∧ ∃ known report, s.run = .settling known .confirmed ∧ s.refreshes .run = some (.done report) ∧
      s'.mutationStatusStore = s.confirm accountKey mutationId known .confirmed report := by
  cases i with
  | refresh n =>
    simp only [runTurn, Option.ite_none_right_eq_some, Option.some.injEq] at hstep
    obtain ⟨-, rfl⟩ := hstep
    exact absurd hafter hbefore
  | read c | readFails c error | resume c =>
    simp only [runTurn] at hstep
    split at hstep <;> cases hstep
    exact absurd hafter hbefore
  | start | throws =>
    simp only [runTurn] at hstep
    split at hstep <;> cases hstep
    cases hafter
  | proceed =>
    simp only [runTurn] at hstep
    split at hstep
    · rename_i report hdone
      refine ⟨rfl, ?_⟩
      unfold Controller.proceed at hstep
      dsimp only at hstep
      split at hstep
      · cases hstep
        dsimp only at hafter
        split at hafter <;> cases hafter
      · rename_i known outcome hrun
        cases hstep
        cases hafter
        exact ⟨known, report, hrun, hdone, rfl⟩
      · cases hstep
        cases hafter
      · cases hstep
    · cases hstep
  | outcome outcome =>
    simp only [runTurn] at hstep
    split at hstep <;> cases hstep
    simp [Controller.settle, hlive] at hafter
  | write next | dispose =>
    cases hstep
    exact absurd hafter hbefore

/-- What the store is to hold of `m`. -/
def confirmationOf (accountKey : AccountKey) (mutationId : MutationId) (m : PendingMutation) : RecentMutationConfirmation :=
  ⟨accountKey, mutationId, statusKind m, mutationEmailId m⟩

theorem confirmationOf_congr {m' : PendingMutation} (h : m'.payload = m.payload) :
    confirmationOf accountKey mutationId m' = confirmationOf accountKey mutationId m := by
  simp [confirmationOf, statusKind, mutationEmailId, h]

theorem confirm_reported {m' : PendingMutation} {values : List PendingMutation} (h : Lacks mutationId values) :
    (s.confirm accountKey mutationId (some m') .confirmed (some values)).confirmation accountKey mutationId =
      some (confirmationOf accountKey mutationId m') := by
  have habsent : (values.any fun value => value.mutationId = mutationId) = false := by
    unfold Lacks findMutation at h
    rw [List.find?_eq_none] at h
    simpa using h
  simp [Controller.confirm, habsent, confirmationOf]

/-- A refresh that has reported nothing leaves the store as it is. -/
theorem confirm_unreported {known : Option PendingMutation} {report : Option (List PendingMutation)} (h : known = none ∨ report = none) :
    s.confirm accountKey mutationId known .confirmed report = s.mutationStatusStore := by
  unfold Controller.confirm
  split
  · rcases h with h | h <;> cases h
  · rfl

/-- A run that ends confirmed has left the confirmation in the store if no other refresh has begun while one of its own
was in flight, and, in a store that did not have it, only then. -/
theorem confirmation_kept_iff {mutationRunner : Bool} {store : MutationStatusState} {repository : Listing} {t : Turn Controller RunInput}
    (hr : MutationRuns accountKey mutationId (.initial mutationRunner store repository) h) (ht : h.getLast? = some t)
    (hbefore : t.before.run ≠ .finished (some .confirmed)) (hafter : t.after.run = .finished (some .confirmed)) :
    ∃ m, started mutationId h = some m ∧
      (Calm h → t.after.mutationStatusStore.confirmation accountKey mutationId = some (confirmationOf accountKey mutationId m)) ∧
      (store.confirmation accountKey mutationId = none →
        t.after.mutationStatusStore.confirmation accountKey mutationId = some (confirmationOf accountKey mutationId m) → Calm h) := by
  obtain ⟨pre, rfl⟩ := List.getLast?_eq_some_iff.1 ht
  obtain ⟨hpre, hlast, -, hstep⟩ := hr.turn pre t [] rfl
  have hfresh : store.confirmation accountKey mutationId = none → _ := MutationRuns.unconfirmed hpre
  obtain ⟨hlive, hs⟩ := MutationRuns.atStage hpre ⟨rfl, rfl, rfl⟩
  rw [← hlast] at hfresh hlive hs
  obtain ⟨hi, known, report, hrun, hdone, hstore⟩ := runTurn_finishes hlive hstep hbefore hafter
  have hcalm : Calm (pre ++ [t]) ↔ Calm pre := by
    rw [calm_snoc, hi]
    simp [quiet]
  have hstarted : started mutationId (pre ++ [t]) = started mutationId pre := by
    rw [started_snoc, hi]
    exact Option.or_none
  have hnone : store.confirmation accountKey mutationId = none →
      t.before.mutationStatusStore.confirmation accountKey mutationId = none := by
    intro h0
    exact hfresh h0 fun outcome hfinished => by rw [hrun] at hfinished; cases hfinished
  rw [hcalm, hstarted, hstore]
  unfold AtStage at hs
  rw [hrun] at hs
  generalize started mutationId pre = o at hs
  cases hs with
  | lost hn =>
    refine ⟨_, rfl, fun hc => absurd hc hn, fun h0 hkept => ?_⟩
    rw [confirm_unreported (.inl rfl), hnone h0] at hkept
    cases hkept
  | settling hr' hcounter hpayload hgone ht =>
    obtain rfl := Option.some.inj (hr'.symm.trans hdone)
    cases ht with
    | done reports overtaken =>
      refine ⟨_, rfl, fun hc => ?_, fun h0 hkept => ?_⟩
      · obtain ⟨values, rfl, hlacks⟩ := reports hc
        exact (confirm_reported hlacks).trans (congrArg some (confirmationOf_congr hpayload))
      · by_contra hc
        rw [confirm_unreported (.inr (overtaken hc)), hnone h0] at hkept
        cases hkept
  | unconfirmed houtcome => exact absurd rfl houtcome

/-! ## A run that keeps its confirmation, and one that loses it -/

def flagging : PendingMutation := ⟨"m1", "a", "2026-08-28T12:00:00.000Z", .keyword ⟨"a", "e1"⟩ ⟨["$seen"], []⟩, .pending 0⟩

def flagged : Controller := .initial true .empty (.present [flagging])

/-- `trackStagedMutation`, and the run up to the runner's answer. -/
def trackedInputs : List RunInput :=
  [.refresh 0, .start, .read (.other 0), .resume (.other 0), .read .run, .resume .run, .proceed, .write (.present []),
    .outcome .confirmed]

instance (h : RunHistory) : Decidable (Calm h) := inferInstanceAs (Decidable (∀ t ∈ h, _))

theorem flagging_kept : ∃ h t, MutationRuns "a" "m1" flagged h ∧ h.getLast? = some t ∧ t.after.run = .finished (some .confirmed) ∧
    t.after.mutationStatusStore.confirmation "a" "m1" = some ⟨"a", "m1", .keyword, some ⟨"a", "e1"⟩⟩ := by
  obtain ⟨h, -, hr, hstarted, hcalm, t, ht, hbefore, hafter⟩ := exists_play flagged (runTurn "a" "m1") (runAllowed "m1" flagged)
    (trackedInputs ++ [.read .run, .resume .run, .proceed])
    (fun h => started "m1" h = some flagging ∧ Calm h ∧
      ∃ t ∈ h.getLast?, t.before.run ≠ .finished (some .confirmed) ∧ t.after.run = .finished (some .confirmed)) (by decide_cbv)
  obtain ⟨m, hm, hkept, -⟩ := confirmation_kept_iff hr ht hbefore hafter
  obtain rfl := Option.some.inj (hm.symm.trans hstarted)
  exact ⟨h, t, hr, ht, hafter, hkept hcalm⟩

/-- A refresh begins after the run's second one, as on the hint of the record's removal. -/
theorem flagging_lost : ∃ h t, MutationRuns "a" "m1" flagged h ∧ h.getLast? = some t ∧ started "m1" h = some flagging ∧
    t.before.run ≠ .finished (some .confirmed) ∧ t.after.run = .finished (some .confirmed) ∧
    t.after.mutationStatusStore.confirmation "a" "m1" = none := by
  obtain ⟨h, -, hr, hstarted, t, ht, hlost⟩ := exists_play flagged (runTurn "a" "m1") (runAllowed "m1" flagged)
    (trackedInputs ++ [.refresh 1, .read .run, .read (.other 1), .resume .run, .resume (.other 1), .proceed])
    (fun h => started "m1" h = some flagging ∧ ∃ t ∈ h.getLast?, t.before.run ≠ .finished (some .confirmed) ∧
      t.after.run = .finished (some .confirmed) ∧ t.after.mutationStatusStore.confirmation "a" "m1" = none) (by decide_cbv)
  exact ⟨h, t, hr, ht, hstarted, hlost⟩

end Boxplot.App
