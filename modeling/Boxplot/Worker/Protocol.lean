import Boxplot.Worker.Posted
import Boxplot.Worker.Stranded
/-!
# The request protocol of the worker

Over all runs: what is answered, when a session is announced as ready, and what
a teardown rules out.
-/

namespace Boxplot.Worker

open Domain Lib Remote Outbox WorkerRuntime

variable {createJmapClient : Nat → String → String → JmapClient} {s s' : WorkerRuntime} {h : History} {i : Input} {r : String}

/-! ## All requests, or one that is lost -/

theorem waiting_nodup (hr : Runs createJmapClient h) : (waiting (last initial h)).Nodup := by
  rw [List.nodup_iff_count_le_one]
  intro r
  have hcounts := answered_or_waiting hr r
  omega

theorem received_of_waiting (hr : Runs createJmapClient h) (hmem : r ∈ waiting (last initial h)) : r ∈ received h := by
  have hcounts := answered_or_waiting hr r
  have hpos := List.count_pos_iff.2 hmem
  exact List.count_pos_iff.1 (by omega)

theorem heeded_run (hr : Runs createJmapClient h) (hheeds : ∀ t ∈ h, Heeds t.before t.input) :
    NoneStale (last initial h) ∧ ∀ r ∈ received h, r ∈ answered h ∨ r ∈ waiting (last initial h) := by
  induction hr with
  | nil => exact ⟨by simp [NoneStale, initial], by simp [received]⟩
  | @snoc h i s' hr hfresh hturn ih =>
    obtain ⟨hnone, hall⟩ := ih fun t ht => hheeds t (List.mem_append_left _ ht)
    have hi : Heeds (last initial h) i := hheeds _ (List.mem_append_right _ (List.mem_singleton_self _))
    have he := effect_of_turn hturn
    rw [last_snoc, received_snoc, answered_snoc]
    refine ⟨he.noneStale (waiting_nodup hr) (openings hr) hi hnone, ?_⟩
    intro r hmem
    rw [List.mem_append]
    rcases List.mem_append.1 hmem with hmem | hmem
    · rcases hall r hmem with hanswered | hwaiting
      · exact .inl (.inl hanswered)
      · exact (he.answers_or_waits (openings hr) hi hnone (.inl hwaiting)).imp_left .inr
    · exact (he.answers_or_waits (openings hr) hi hnone (.inr (Option.mem_toList.1 hmem))).imp_left .inr

theorem stranded_run (hr : Runs createJmapClient h) (hheeds : ∃ t ∈ h, ¬ Heeds t.before t.input) :
    ∃ r ∈ received h, r ∉ answered h ∧ Stranded (last initial h) r := by
  induction hr with
  | nil => simp at hheeds
  | @snoc h i s' hr hfresh hturn ih =>
    have he := effect_of_turn hturn
    rw [last_snoc, received_snoc, answered_snoc]
    simp only [List.mem_append, not_or]
    by_cases hold : ∃ t ∈ h, ¬ Heeds t.before t.input
    · obtain ⟨r, hreceived, hanswered, hstranded⟩ := ih hold
      have hnew : brought i ≠ some r := fun hbrought => hfresh r hbrought hreceived
      obtain ⟨hstranded, hunanswered⟩ := he.stranded hstranded hnew
      exact ⟨r, .inl hreceived, ⟨hanswered, hunanswered⟩, hstranded⟩
    · obtain ⟨t, ht, hno⟩ := hheeds
      rcases List.mem_append.1 ht with ht | ht
      · exact absurd ⟨t, ht, hno⟩ hold
      · obtain rfl := List.mem_singleton.1 ht
        have hwaiting : ∀ q ∈ brought i, q ∉ waiting (last initial h) := fun q hq hmem =>
          hfresh q hq (received_of_waiting hr hmem)
        obtain ⟨r, hcame, hstranded, hunanswered⟩ := he.strands (waiting_nodup hr) hwaiting hno
        rcases hcame with hcame | hcame
        · have hcounts := answered_or_waiting hr r
          have hpos := List.count_pos_iff.2 hcame
          exact ⟨r, .inl (received_of_waiting hr hcame), ⟨List.count_eq_zero.1 (by omega), hunanswered⟩, hstranded⟩
        · have hcounts := answered_or_waiting hr r
          have hzero := List.count_eq_zero.2 (hfresh r hcame)
          exact ⟨r, .inr (Option.mem_toList.2 hcame), ⟨List.count_eq_zero.1 (by omega), hunanswered⟩, hstranded⟩

/-! ## Ready sessions -/

/-- The session in place was announced. -/
theorem Effect.announced (he : Effect s i s') {answers : List String}
    (hs : ∀ session, s.remoteSession = some session → session.requestId ∈ answers) :
    ∀ session, s'.remoteSession = some session → session.requestId ∈ answers ++ answersOf s'.acts := by
  intro session hsession
  rw [List.mem_append]
  cases he with
  | refused _ _ hkept => exact .inl (hs session (hkept.session ▸ hsession))
  | threw _ hkept => exact .inl (hs session (hkept.session ▸ hsession))
  | opens _ hreset => exact absurd (hsession.symm.trans hreset.session) (by simp)
  | tornDown _ hreset => exact absurd (hsession.symm.trans hreset.session) (by simp)
  | starts _ _ hkept => exact .inl (hs session (hkept.session ▸ hsession))
  | expired hreset => exact absurd (hsession.symm.trans hreset.session) (by simp)
  | installs _ _ hinstalled _ hsaid =>
    obtain rfl := Option.some.inj (hinstalled.session.symm.trans hsession)
    rw [hsaid.1]
    exact .inr (List.mem_singleton_self _)
  | dropped _ _ hkept => exact .inl (hs session (hkept.session ▸ hsession))
  | failed _ _ hreset => exact absurd (hsession.symm.trans hreset.session) (by simp)
  | ended _ _ _ hkept => exact .inl (hs session (hkept.session ▸ hsession))
  | expires _ _ hreset => exact absurd (hsession.symm.trans hreset.session) (by simp)

theorem announced (hr : Runs createJmapClient h) :
    ∀ session, (last initial h).remoteSession = some session → session.requestId ∈ answered h := by
  induction hr with
  | nil =>
    rintro session ⟨⟩
  | @snoc h i s' hr hfresh hturn ih =>
    rw [last_snoc, answered_snoc]
    exact (effect_of_turn hturn).announced ih

/-! ## After a teardown -/

/-- No session, present or to be installed, is for one of these requests. -/
structure Beyond (requests : List String) (s : WorkerRuntime) : Prop where
  coordinator : ∀ session, s.coordinator = some session → session.requestId ∉ requests
  outbox : ∀ session, s.outbox = some session → session.requestId ∉ requests
  opening : ∀ r c, .opening r s.sessionGeneration c ∈ s.outstanding → r ∉ requests

theorem Reset.beyond (hreset : Reset s s') {requests : List String}
    (hopening : ∀ r c, .opening r s'.sessionGeneration c ∈ s'.outstanding → r ∉ requests) : Beyond requests s' where
  coordinator session hsession := by
    rw [hreset.coordinator] at hsession
    cases hsession
  outbox session hsession := by
    rw [hreset.outbox] at hsession
    cases hsession
  opening := hopening

theorem Kept.beyond (hkept : Kept s s') {requests : List String} (hb : Beyond requests s)
    (hsub : ∀ r c, .opening r s.sessionGeneration c ∈ s'.outstanding → .opening r s.sessionGeneration c ∈ s.outstanding) :
    Beyond requests s' where
  coordinator session hsession := hb.coordinator session (hkept.coordinator ▸ hsession)
  outbox session hsession := hb.outbox session (hkept.outbox ▸ hsession)
  opening r c hmem := by
    rw [hkept.generation] at hmem
    exact hb.opening r c (hsub r c hmem)

/-- No opening has a generation that is yet to come. -/
theorem Reset.no_opening (hreset : Reset s s') (ho : Openings s) {c : JmapClient}
    (hmem : .opening r s'.sessionGeneration c ∈ s.outstanding) : False := by
  have hbounded := ho.bounded _ _ _ hmem
  rw [hreset.generation] at hbounded
  omega

theorem Effect.beyond (he : Effect s i s') (ho : Openings s) {requests : List String} (hb : Beyond requests s)
    (hnew : ∀ r ∈ brought i, r ∉ requests) : Beyond requests s' := by
  cases he with
  | refused _ _ hkept houtstanding => exact hkept.beyond hb fun r c hmem => houtstanding ▸ hmem
  | threw _ hkept houtstanding => exact hkept.beyond hb fun r c hmem => houtstanding ▸ hmem
  | opens _ hreset _ _ houtstanding =>
    apply hreset.beyond
    intro r c hmem
    rw [houtstanding] at hmem
    rcases List.mem_append.1 hmem with hmem | hmem
    · exact (hreset.no_opening ho hmem).elim
    · cases List.mem_singleton.1 hmem
      exact hnew _ rfl
  | tornDown _ hreset houtstanding => exact hreset.beyond fun r c hmem => (hreset.no_opening ho (houtstanding ▸ hmem)).elim
  | starts _ _ hkept _ hother _ houtstanding =>
    apply hkept.beyond hb
    intro r c hmem
    rw [houtstanding] at hmem
    rcases List.mem_append.1 hmem with hmem | hmem
    · exact hmem
    · exact absurd (List.mem_singleton.1 hmem).symm (hother _ _ _)
  | expired hreset houtstanding => exact hreset.beyond fun r c hmem => (hreset.no_opening ho (houtstanding ▸ hmem)).elim
  | installs hmem hgeneration hinstalled houtstanding =>
    obtain rfl := hgeneration
    have hbeyond := hb.opening _ _ hmem
    constructor
    · intro session hsession
      obtain rfl := Option.some.inj (hinstalled.coordinator.symm.trans hsession)
      exact hbeyond
    · intro session hsession
      obtain rfl := Option.some.inj (hinstalled.outbox.symm.trans hsession)
      exact hbeyond
    · intro r c hmem
      rw [hinstalled.generation] at hmem
      exact hb.opening r c (mem_of_erase houtstanding hmem)
  | dropped _ _ hkept houtstanding => exact hkept.beyond hb fun r c => mem_of_erase houtstanding
  | failed _ _ hreset houtstanding => exact hreset.beyond fun r c hmem => (hreset.no_opening ho (mem_of_erase houtstanding hmem)).elim
  | ended _ _ _ hkept houtstanding => exact hkept.beyond hb fun r c => mem_of_erase houtstanding
  | expires _ _ hreset houtstanding => exact hreset.beyond fun r c hmem => (hreset.no_opening ho (mem_of_erase houtstanding hmem)).elim

/-- What is started is started on the session in place. -/
theorem Effect.started (he : Effect s i s') {requests : List String} (hb : Beyond requests s) :
    ∀ session ∈ startedOn s'.acts, session.requestId ∉ requests := by
  have hnone {answers : List String} (hsaid : Said s' answers []) : ∀ session ∈ startedOn s'.acts, session.requestId ∉ requests := by
    rw [hsaid.2]
    simp
  cases he with
  | starts _ _ _ _ _ hsession _ hsaid =>
    rw [hsaid.2]
    intro session hmem
    obtain rfl := List.mem_singleton.1 hmem
    rcases hsession with hsession | hsession
    · exact hb.coordinator _ hsession
    · exact hb.outbox _ hsession
  | refused _ _ _ _ hsaid => exact hnone hsaid
  | threw _ _ _ hsaid => exact hnone hsaid
  | opens _ _ _ _ _ hsaid => exact hnone hsaid
  | tornDown _ _ _ hsaid => exact hnone hsaid
  | expired _ _ hsaid => exact hnone hsaid
  | installs _ _ _ _ hsaid => exact hnone hsaid
  | dropped _ _ _ _ hsaid => exact hnone hsaid
  | failed _ _ _ _ hsaid => exact hnone hsaid
  | ended _ _ _ _ _ hsaid => exact hnone hsaid
  | expires _ _ _ _ hsaid => exact hnone hsaid

theorem started_after (hr : Runs createJmapClient h) {pre post : History} {t : Turn WorkerRuntime Input} (hsplit : h = pre ++ t :: post)
    {canary : String} (hmem : .posted (.teardownComplete r canary) ∈ t.after.acts) :
    ∀ t' ∈ post, ∀ session ∈ startedOn t'.after.acts, session.requestId ∉ received (pre ++ [t]) := by
  obtain ⟨hpre, hbefore, hfresh, hturn⟩ := hr.turn pre t post hsplit
  have hinput := teardown_of_turn hturn hmem
  have ho := openings hpre
  rw [← hbefore] at ho
  -- nothing is left after the teardown itself
  have hbeyond : Beyond (received (pre ++ [t])) t.after := by
    have he := effect_of_turn hturn
    rw [hinput] at he
    cases he with
    | refused _ hsupersedes => exact absurd trivial hsupersedes
    | threw hthrows => exact hthrows.elim
    | opens _ _ _ _ _ hsaid =>
      have hanswered := answers_of_posted hmem rfl
      rw [hsaid.1] at hanswered
      cases hanswered
    | tornDown _ hreset houtstanding => exact hreset.beyond fun r c hmem => (hreset.no_opening ho (houtstanding ▸ hmem)).elim
    | starts _ hsupersedes => exact absurd trivial hsupersedes
  rw [hsplit, List.append_cons] at hr
  have hkeep : ∀ h i s', pre ++ [t] <+: h → Runs createJmapClient h → Fresh h i →
      turn createJmapClient (last initial h) i = some s' → Beyond (received (pre ++ [t])) (last initial h) →
        Beyond (received (pre ++ [t])) s' := by
    rintro _ i s' ⟨rest, rfl⟩ hr hfresh hturn hbeyond
    refine (effect_of_turn hturn).beyond (openings hr) hbeyond fun q hq hmem => hfresh q hq ?_
    unfold received
    rw [List.filterMap_append]
    exact List.mem_append_left _ hmem
  have hturns := (Turns.after (by rw [last_snoc]; exact hbeyond) hkeep post hr).2
  intro t' ht' session hsession
  obtain ⟨before, after, rfl⟩ := List.append_of_mem ht'
  obtain ⟨-, -, -, hturn'⟩ := hr.turn (pre ++ [t] ++ before) t' after (by simp)
  exact (effect_of_turn hturn').started (hturns t' ht') session hsession

/-! ## The protocol -/

/-- The session of a request is announced in the turn that installs it. -/
theorem ready_installed (hr : Runs createJmapClient h) {t : Turn WorkerRuntime Input} (ht : t ∈ h) {primaryAccounts : List (String × String)}
    (hmem : .posted (.sessionReady r primaryAccounts) ∈ t.after.acts) :
    ∃ session, session.requestId = r ∧ t.after.remoteSession = some session ∧ t.before.remoteSession ≠ some session := by
  obtain ⟨pre, post, rfl⟩ := List.append_of_mem ht
  obtain ⟨hpre, hbefore, -, hturn⟩ := hr.turn pre t post rfl
  obtain ⟨session, hid, hsession, hwaiting⟩ := ready_of_turn hturn hmem
  refine ⟨session, hid, hsession, fun hold => ?_⟩
  -- it would have been answered already
  rw [hbefore] at hold hwaiting
  have hanswered := List.count_pos_iff.2 (announced hpre session hold)
  rw [hid] at hanswered
  have hcounts := answered_or_waiting hpre r
  have hpos := List.count_pos_iff.2 hwaiting
  omega

/-- Whatever the order of the completions: no request is answered twice, a session is announced when it is installed, and
after a teardown nothing is started on a session for an earlier request. And when nothing is outstanding, every request has
been answered exactly if no turn superseded an opening or threw. -/
theorem worker_protocol (hr : Runs createJmapClient h) :
    (∀ r, (answered h).count r ≤ 1) ∧
    ((last initial h).outstanding = [] →
      ((∀ r ∈ received h, (answered h).count r = 1) ↔ ∀ t ∈ h, Heeds t.before t.input)) ∧
    (∀ t ∈ h, ∀ r primaryAccounts, .posted (.sessionReady r primaryAccounts) ∈ t.after.acts →
      ∃ session, session.requestId = r ∧ t.after.remoteSession = some session ∧ t.before.remoteSession ≠ some session) ∧
    ∀ pre t post, h = pre ++ t :: post → ∀ r canary, .posted (.teardownComplete r canary) ∈ t.after.acts →
      ∀ t' ∈ post, ∀ session ∈ startedOn t'.after.acts, session.requestId ∉ received (pre ++ [t]) := by
  refine ⟨?_, ?_, ?_, ?_⟩
  · intro r
    have hcounts := answered_or_waiting hr r
    omega
  · intro hidle
    constructor
    · intro hall t ht
      by_contra hno
      obtain ⟨r, hreceived, hunanswered, -⟩ := stranded_run hr ⟨t, ht, hno⟩
      have hone := hall r hreceived
      rw [List.count_eq_zero.2 hunanswered] at hone
      cases hone
    · intro hheeds r hreceived
      have hcounts := answered_or_waiting hr r
      rcases (heeded_run hr hheeds).2 r hreceived with hanswered | hwaiting
      · have hpos := List.count_pos_iff.2 hanswered
        omega
      · unfold waiting at hwaiting
        rw [hidle] at hwaiting
        cases hwaiting
  · intro t ht r primaryAccounts hmem
    exact ready_installed hr ht hmem
  · intro pre t post hsplit r canary hmem
    exact started_after hr hsplit hmem

/-! ## Two sessions -/

/-- `new JamClientAdapter`. -/
def newClient (n : Nat) (_ _ : String) : JmapClient := n

def initMessage (requestId : String) : Input := .message (.initSession requestId "https://jmap.test" "token" (some 3600))

def sampleAccounts : List RemoteAccount := [⟨"remote-a", ["urn:ietf:params:jmap:mail"]⟩]

def opened (requestId : String) (generation : Nat) (client : JmapClient) : Input :=
  .completion (.opening requestId generation client) (.ok sampleAccounts)

/-- One session after the other. -/
def orderlyInputs : List Input :=
  [initMessage "m:1", opened "m:1" 1 0, .message (.syncAccount "m:2" "a" "remote-a"), .message (.teardownSession "m:3"),
    .completion (.sync "m:2" "a" (some 0) ⟨"m:1", sampleAccounts⟩) (.ok ()), initMessage "m:4", opened "m:4" 3 1]

/-- The second session is asked for while the first one is being opened. -/
def overlappingInputs : List Input := [initMessage "m:1", initMessage "m:2", opened "m:1" 1 0, opened "m:2" 2 1]

theorem orderly_heeds : ∃ h, play initial (turn newClient) Fresh [] orderlyInputs = some h ∧
    (last initial h).outstanding = [] ∧ (∀ r, (answered h).count r ≤ 1) ∧ ∀ t ∈ h, Heeds t.before t.input := by
  obtain ⟨h, hplay, hr, hidle, hall⟩ := exists_play initial (turn newClient) Fresh orderlyInputs
    (fun h => (last initial h).outstanding = [] ∧ ∀ r ∈ received h, (answered h).count r = 1) (by decide +kernel)
  obtain ⟨honce, hanswered, -⟩ := worker_protocol hr
  exact ⟨h, hplay, hidle, honce, (hanswered hidle).1 hall⟩

/-- The first request is never answered, though nothing is outstanding. -/
theorem overlapping_unanswered : ∃ h, play initial (turn newClient) Fresh [] overlappingInputs = some h ∧ Runs newClient h ∧
    (last initial h).outstanding = [] ∧ "m:1" ∈ received h ∧ "m:1" ∉ answered h :=
  exists_play _ _ _ overlappingInputs _ (by decide +kernel)

end Boxplot.Worker
