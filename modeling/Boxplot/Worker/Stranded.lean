import Boxplot.Worker.Requests
/-!
# Requests that get lost

A request is lost when its opening is superseded or its handler throws. As long
as every turn heeds the requests before it, all are answered or waited for; one
turn that does not, and a request is never answered.
-/

namespace Boxplot.Worker

open Domain Lib Remote Outbox WorkerRuntime

variable {createJmapClient : Nat → String → String → JmapClient} {s s' : WorkerRuntime} {h : History} {i : Input} {r : String}

/-! ## Turns that heed requests -/

/-- An opening is in flight whose session is to be installed. -/
def Opening (s : WorkerRuntime) : Prop := ∃ r c, .opening r s.sessionGeneration c ∈ s.outstanding

/-- No handler throws, and no opening is superseded. -/
def Heeds (s : WorkerRuntime) : Input → Prop
  | .message m => ¬ Throws s m ∧ (Supersedes m → ¬ Opening s)
  | .expiry => ¬ Opening s
  | .completion operation result => Expires s operation result → ¬ Opening s

/-- Every opening that is waited for is to be installed. -/
def NoneStale (s : WorkerRuntime) : Prop := ∀ r g c, .opening r g c ∈ s.outstanding → g = s.sessionGeneration

theorem mem_waiting_begin {operation : Operation} (houtstanding : s'.outstanding = s.outstanding ++ [operation]) :
    r ∈ waiting s' ↔ r ∈ waiting s ∨ r = operation.requestId := by
  unfold waiting
  rw [houtstanding, List.map_append, List.mem_append, List.map_singleton, List.mem_singleton]

theorem mem_waiting_erase {operation : Operation} (houtstanding : s'.outstanding = s.outstanding.erase operation)
    (hwaiting : r ∈ waiting s) : r = operation.requestId ∨ r ∈ waiting s' := by
  obtain ⟨other, hmem, rfl⟩ := List.mem_map.1 hwaiting
  by_cases heq : other = operation
  · exact .inl (congrArg Operation.requestId heq)
  · refine .inr (List.mem_map_of_mem ?_)
    rw [houtstanding]
    exact (List.mem_erase_of_ne heq).2 hmem

theorem Effect.noneStale (he : Effect s i s') (hids : (waiting s).Nodup) (ho : Openings s) (hheeds : Heeds s i)
    (hnone : NoneStale s) : NoneStale s' := by
  have hkeep (hkept : s'.sessionGeneration = s.sessionGeneration)
      (hsub : ∀ r g c, Operation.opening r g c ∈ s'.outstanding → .opening r g c ∈ s.outstanding) : NoneStale s' := by
    intro r g c hmem
    rw [hkept]
    exact hnone r g c (hsub r g c hmem)
  have hempty (hopening : ¬ Opening s) (r : String) (g : Nat) (c : JmapClient) : .opening r g c ∉ s.outstanding := by
    intro hmem
    obtain rfl := hnone r g c hmem
    exact hopening ⟨r, c, hmem⟩
  cases he with
  | refused _ _ hkept houtstanding _ => exact hkeep hkept.generation fun r g c hmem => houtstanding ▸ hmem
  | threw _ hkept houtstanding _ => exact hkeep hkept.generation fun r g c hmem => houtstanding ▸ hmem
  | opens hsupersedes _ _ _ houtstanding _ =>
    intro r g c hmem
    rw [houtstanding] at hmem
    rcases List.mem_append.1 hmem with hmem | hmem
    · exact absurd hmem (hempty (hheeds.2 hsupersedes) r g c)
    · cases List.mem_singleton.1 hmem
      rfl
  | tornDown hsupersedes _ houtstanding _ =>
    intro r g c hmem
    rw [houtstanding] at hmem
    exact absurd hmem (hempty (hheeds.2 hsupersedes) r g c)
  | starts _ _ hkept _ hother _ houtstanding _ =>
    apply hkeep hkept.generation
    intro r g c hmem
    rw [houtstanding] at hmem
    rcases List.mem_append.1 hmem with hmem | hmem
    · exact hmem
    · exact absurd (List.mem_singleton.1 hmem).symm (hother r g c)
  | expired _ houtstanding _ =>
    intro r g c hmem
    rw [houtstanding] at hmem
    exact absurd hmem (hempty hheeds r g c)
  | installs _ _ hinstalled houtstanding _ => exact hkeep hinstalled.generation fun r g c => mem_of_erase houtstanding
  | dropped _ _ hkept houtstanding _ => exact hkeep hkept.generation fun r g c => mem_of_erase houtstanding
  | @failed requestId _ client _ _ hopening hgeneration _ houtstanding _ =>
    -- the opening that failed was the only one
    intro r g c hmem
    obtain rfl := hgeneration
    obtain rfl := hnone r g c (mem_of_erase houtstanding hmem)
    obtain ⟨rfl, rfl⟩ := ho.unique _ _ _ _ _ hopening (mem_of_erase houtstanding hmem)
    rw [houtstanding] at hmem
    exact absurd rfl ((List.Nodup.of_map _ hids).mem_erase_iff.1 hmem).1
  | ended _ _ _ hkept houtstanding _ => exact hkeep hkept.generation fun r g c => mem_of_erase houtstanding
  | expires _ hexpires _ houtstanding _ =>
    intro r g c hmem
    exact absurd (mem_of_erase houtstanding hmem) (hempty (hheeds hexpires) r g c)

/-- If no opening is stale, who waited or came is answered, or waits. -/
theorem Effect.answers_or_waits (he : Effect s i s') (ho : Openings s) (hheeds : Heeds s i) (hnone : NoneStale s)
    (hr : r ∈ waiting s ∨ brought i = some r) : r ∈ answersOf s'.acts ∨ r ∈ waiting s' := by
  cases he with
  | refused _ _ _ houtstanding hsaid =>
    rw [hsaid.1, waiting_same houtstanding]
    rcases hr with hr | hr
    · exact .inr hr
    · cases hr
      exact .inl (List.mem_singleton_self _)
  | threw hthrows => exact absurd hthrows hheeds.1
  | opens _ _ _ _ houtstanding _ =>
    rw [mem_waiting_begin houtstanding]
    rcases hr with hr | hr
    · exact .inr (.inl hr)
    · cases hr
      exact .inr (.inr rfl)
  | tornDown _ _ houtstanding hsaid =>
    rw [hsaid.1, waiting_same houtstanding]
    rcases hr with hr | hr
    · exact .inr hr
    · cases hr
      exact .inl (List.mem_singleton_self _)
  | starts _ _ _ hid _ _ houtstanding _ =>
    rw [mem_waiting_begin houtstanding, hid]
    rcases hr with hr | hr
    · exact .inr (.inl hr)
    · cases hr
      exact .inr (.inr rfl)
  | expired _ houtstanding _ =>
    rw [waiting_same houtstanding]
    rcases hr with hr | hr
    · exact .inr hr
    · cases hr
  | @dropped operation _ _ hmem hdropped _ _ _ =>
    -- the present opening has the client and the token
    cases operation with
    | opening requestId generation client =>
      obtain rfl := hnone _ _ _ hmem
      obtain ⟨hclient, htoken⟩ := ho.current _ _ hmem
      rcases hdropped with hdropped | hdropped | hdropped
      · exact absurd rfl hdropped
      · exact absurd hclient hdropped
      · exact absurd hdropped htoken
    | sync => exact hdropped.elim
    | send => exact hdropped.elim
  | installs _ _ _ houtstanding hsaid =>
    rw [hsaid.1]
    exact (mem_waiting_erase houtstanding (hr.resolve_right (by rintro ⟨⟩))).imp_left List.mem_singleton.2
  | failed _ _ _ houtstanding hsaid =>
    rw [hsaid.1]
    exact (mem_waiting_erase houtstanding (hr.resolve_right (by rintro ⟨⟩))).imp_left List.mem_singleton.2
  | ended _ _ _ _ houtstanding hsaid =>
    rw [hsaid.1]
    exact (mem_waiting_erase houtstanding (hr.resolve_right (by rintro ⟨⟩))).imp_left List.mem_singleton.2
  | expires _ _ _ houtstanding hsaid =>
    rw [hsaid.1]
    exact (mem_waiting_erase houtstanding (hr.resolve_right (by rintro ⟨⟩))).imp_left List.mem_singleton.2

/-! ## Turns that do not -/

/-- Every opening with this id is stale. -/
def Stranded (s : WorkerRuntime) (r : String) : Prop :=
  ∀ operation ∈ s.outstanding, operation.requestId = r → ∃ g c, operation = .opening r g c ∧ g < s.sessionGeneration

/-- What is stranded stays so, and is not answered. -/
theorem Effect.stranded (he : Effect s i s') (hs : Stranded s r) (hnew : brought i ≠ some r) :
    Stranded s' r ∧ r ∉ answersOf s'.acts := by
  have hsubset (hle : s.sessionGeneration ≤ s'.sessionGeneration) (hsub : ∀ operation ∈ s'.outstanding,
      operation ∈ s.outstanding ∨ operation.requestId ≠ r) : Stranded s' r := by
    intro operation hmem hid
    rcases hsub operation hmem with hmem | hne
    · obtain ⟨g, c, rfl, hlt⟩ := hs operation hmem hid
      exact ⟨g, c, rfl, hlt.trans_le hle⟩
    · exact absurd hid hne
  have hbegun {operation : Operation} {q : String} (hq : brought i = some q) (hid : operation.requestId = q)
      (houtstanding : s'.outstanding = s.outstanding ++ [operation]) :
      ∀ other ∈ s'.outstanding, other ∈ s.outstanding ∨ other.requestId ≠ r := by
    intro other hmem
    rw [houtstanding] at hmem
    rcases List.mem_append.1 hmem with hmem | hmem
    · exact .inl hmem
    · right
      rw [List.mem_singleton.1 hmem, hid]
      rintro rfl
      exact hnew hq
  have hother {q : String} (hq : brought i = some q) : r ∉ [q] := by
    rw [List.mem_singleton]
    rintro rfl
    exact hnew hq
  cases he with
  | refused _ _ hkept houtstanding hsaid =>
    exact ⟨hsubset hkept.generation.ge fun o hmem => .inl (houtstanding ▸ hmem), by rw [hsaid.1]; exact hother rfl⟩
  | threw _ hkept houtstanding hsaid =>
    exact ⟨hsubset hkept.generation.ge fun o hmem => .inl (houtstanding ▸ hmem), by rw [hsaid.1]; exact List.not_mem_nil⟩
  | opens _ hreset _ _ houtstanding hsaid =>
    exact ⟨hsubset (by rw [hreset.generation]; omega) (hbegun rfl rfl houtstanding), by rw [hsaid.1]; exact List.not_mem_nil⟩
  | tornDown _ hreset houtstanding hsaid =>
    exact ⟨hsubset (by rw [hreset.generation]; omega) fun o hmem => .inl (houtstanding ▸ hmem), by rw [hsaid.1]; exact hother rfl⟩
  | starts _ _ hkept hid _ _ houtstanding hsaid =>
    exact ⟨hsubset hkept.generation.ge (hbegun rfl hid houtstanding), by rw [hsaid.1]; exact List.not_mem_nil⟩
  | expired hreset houtstanding hsaid =>
    exact ⟨hsubset (by rw [hreset.generation]; omega) fun o hmem => .inl (houtstanding ▸ hmem), by
      rw [hsaid.1]
      exact List.not_mem_nil⟩
  | installs hmem hgeneration hinstalled houtstanding hsaid =>
    refine ⟨hsubset hinstalled.generation.ge fun o ho => .inl (mem_of_erase houtstanding ho), ?_⟩
    rw [hsaid.1, List.mem_singleton]
    rintro rfl
    obtain ⟨g, c, heq, hlt⟩ := hs _ hmem rfl
    cases heq
    omega
  | dropped _ _ hkept houtstanding hsaid =>
    exact ⟨hsubset hkept.generation.ge fun o ho => .inl (mem_of_erase houtstanding ho), by rw [hsaid.1]; exact List.not_mem_nil⟩
  | failed hmem hgeneration hreset houtstanding hsaid =>
    refine ⟨hsubset (by rw [hreset.generation]; omega) fun o ho => .inl (mem_of_erase houtstanding ho), ?_⟩
    rw [hsaid.1, List.mem_singleton]
    rintro rfl
    obtain ⟨g, c, heq, hlt⟩ := hs _ hmem rfl
    cases heq
    omega
  | ended hmem _ hno hkept houtstanding hsaid =>
    refine ⟨hsubset hkept.generation.ge fun o ho => .inl (mem_of_erase houtstanding ho), ?_⟩
    rw [hsaid.1, List.mem_singleton]
    rintro rfl
    obtain ⟨g, c, heq, -⟩ := hs _ hmem rfl
    exact hno _ _ _ heq
  | @expires operation _ _ hmem hexpires hreset houtstanding hsaid =>
    refine ⟨hsubset (by rw [hreset.generation]; omega) fun o ho => .inl (mem_of_erase houtstanding ho), ?_⟩
    rw [hsaid.1, List.mem_singleton]
    rintro rfl
    obtain ⟨g, c, heq, -⟩ := hs _ hmem rfl
    cases operation with
    | opening => exact hexpires
    | sync => cases heq
    | send => cases heq

theorem eq_of_requestId (hids : (waiting s).Nodup) {o o' : Operation} (ho : o ∈ s.outstanding) (ho' : o' ∈ s.outstanding)
    (heq : o.requestId = o'.requestId) : o = o' :=
  List.inj_on_of_nodup_map hids ho ho' heq

/-- A reset strands the opening that is in flight. -/
theorem Reset.strands (hreset : Reset s s') (hids : (waiting s).Nodup) {c : JmapClient}
    (hopening : .opening r s.sessionGeneration c ∈ s.outstanding)
    (hsub : ∀ operation ∈ s'.outstanding, operation ∈ s.outstanding ∨ operation.requestId ≠ r) : Stranded s' r := by
  intro operation hmem hid
  rcases hsub operation hmem with hmem | hne
  · refine ⟨s.sessionGeneration, c, eq_of_requestId hids hmem hopening hid, ?_⟩
    rw [hreset.generation]
    omega
  · exact absurd hid hne

theorem not_throws_of_supersedes {m : MainToWorkerMessage} (h : Supersedes m) : ¬ Throws s m := by
  cases m with
  | initSession => exact id
  | teardownSession => exact id
  | syncAccount => exact h.elim
  | sendEmail => exact h.elim

/-- A turn that heeds nobody strands a request without an answer. -/
theorem Effect.strands (he : Effect s i s') (hids : (waiting s).Nodup) (hfresh : ∀ q ∈ brought i, q ∉ waiting s)
    (hheeds : ¬ Heeds s i) :
    ∃ r, (r ∈ waiting s ∨ brought i = some r) ∧ Stranded s' r ∧ r ∉ answersOf s'.acts := by
  have hwaits {r : String} {g : Nat} {c : JmapClient} (hmem : .opening r g c ∈ s.outstanding) : r ∈ waiting s :=
    List.mem_map.2 ⟨_, hmem, rfl⟩
  cases he with
  | refused hthrows hsupersedes => exact absurd ⟨hthrows, fun h => absurd h hsupersedes⟩ hheeds
  | @threw m _ _ _ houtstanding hsaid =>
    refine ⟨m.requestId, .inr rfl, ?_, by rw [hsaid.1]; exact List.not_mem_nil⟩
    intro operation hmem hid
    rw [houtstanding] at hmem
    exact absurd (List.mem_map.2 ⟨operation, hmem, hid⟩) (hfresh m.requestId rfl)
  | @opens m _ _ hsupersedes hreset _ _ houtstanding hsaid =>
    obtain ⟨r, c, hopening⟩ : Opening s := by
      by_contra hno
      exact hheeds ⟨not_throws_of_supersedes hsupersedes, fun _ => hno⟩
    refine ⟨r, .inl (hwaits hopening), hreset.strands hids hopening ?_, by rw [hsaid.1]; exact List.not_mem_nil⟩
    intro operation hmem
    rw [houtstanding] at hmem
    rcases List.mem_append.1 hmem with hmem | hmem
    · exact .inl hmem
    · right
      rw [List.mem_singleton.1 hmem]
      rintro rfl
      exact hfresh m.requestId rfl (hwaits hopening)
  | @tornDown m _ hsupersedes hreset houtstanding hsaid =>
    obtain ⟨r, c, hopening⟩ : Opening s := by
      by_contra hno
      exact hheeds ⟨not_throws_of_supersedes hsupersedes, fun _ => hno⟩
    refine ⟨r, .inl (hwaits hopening), hreset.strands hids hopening fun o hmem => .inl (houtstanding ▸ hmem), ?_⟩
    rw [hsaid.1, List.mem_singleton]
    rintro rfl
    exact hfresh m.requestId rfl (hwaits hopening)
  | starts hthrows hsupersedes => exact absurd ⟨hthrows, fun h => absurd h hsupersedes⟩ hheeds
  | expired hreset houtstanding hsaid =>
    obtain ⟨r, c, hopening⟩ := not_not.1 hheeds
    exact ⟨r, .inl (hwaits hopening), hreset.strands hids hopening fun o hmem => .inl (houtstanding ▸ hmem), by
      rw [hsaid.1]
      exact List.not_mem_nil⟩
  | installs => exact absurd (fun h => h.elim) hheeds
  | @dropped operation _ _ _ hdropped =>
    cases operation with
    | opening => exact absurd (fun h => h.elim) hheeds
    | sync => exact hdropped.elim
    | send => exact hdropped.elim
  | failed => exact absurd (fun h => h.elim) hheeds
  | ended _ hexpires => exact absurd (fun h => absurd h hexpires) hheeds
  | @expires operation _ _ hmem hexpires hreset houtstanding hsaid =>
    obtain ⟨r, c, hopening⟩ : Opening s := by
      by_contra hno
      exact hheeds fun _ => hno
    refine ⟨r, .inl (hwaits hopening), hreset.strands hids hopening fun o ho => .inl (mem_of_erase houtstanding ho), ?_⟩
    rw [hsaid.1, List.mem_singleton]
    intro heq
    obtain rfl := eq_of_requestId hids hopening hmem heq
    exact hexpires

end Boxplot.Worker
