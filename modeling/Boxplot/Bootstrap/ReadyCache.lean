import Mathlib
import Boxplot.Bootstrap.Answer
import Boxplot.Bootstrap.Effects
import Boxplot.Lib.Ledger
/-!
# A ready cache is kept

What a start deletes. A creation that was cut off leaves its marker, and so may
a reset that succeeds after it: the next start then takes the new cache for an
unfinished one.
-/

namespace Boxplot.Bootstrap

open Lib

variable {h : Hazards}

/-! ## Histories -/

/-- Between a success and a later loss, a reset is authorised. -/
def KeepsReady (events : List Event) : Prop :=
  ∀ l₁ l₂ l₃ e, events = l₁ ++ .succeeded :: (l₂ ++ e :: l₃) → e.IsLoss → .authorized ∈ l₂

/-- An engine was ready, and no reset has been authorised since. -/
def Ready (events : List Event) : Prop := ∃ l₁ l₂, events = l₁ ++ .succeeded :: l₂ ∧ .authorized ∉ l₂

theorem Ready.of_snoc {events : List Event} {e : Event} (hr : Ready (events ++ [e])) : e = .succeeded ∨ (Ready events ∧ e ≠ .authorized) := by
  obtain ⟨l₁, l₂, he, hn⟩ := hr
  rcases snoc_split he with ⟨-, rfl, -⟩ | ⟨l, rfl, rfl⟩
  · exact .inl rfl
  · rw [List.mem_append, not_or] at hn
    exact .inr ⟨⟨l₁, l, rfl, hn.1⟩, fun h => hn.2 (by simp [h])⟩

theorem Ready.of_append {events es : List Event} (hes : ∀ e ∈ es, e.IsLoss) (hr : Ready (events ++ es)) : Ready events := by
  induction es using List.reverseRecOn with
  | nil => simpa using hr
  | append_singleton es e ih =>
    rw [← List.append_assoc] at hr
    rcases hr.of_snoc with rfl | ⟨hr, -⟩
    · exact (hes .succeeded (by simp)).elim
    · exact ih (fun e he => hes e (by simp [he])) hr

theorem KeepsReady.note {events : List Event} (hk : KeepsReady events) {e : Event} (he : e.IsLoss → ¬ Ready events) :
    KeepsReady (events ++ [e]) := by
  intro l₁ l₂ l₃ x hx hl
  have hx' : events ++ [e] = (l₁ ++ .succeeded :: l₂) ++ x :: l₃ := by simpa using hx
  rcases snoc_split hx' with ⟨-, rfl, rfl⟩ | ⟨l, -, rfl⟩
  · by_contra hn
    exact he hl ⟨l₁, l₂, rfl, hn⟩
  · exact hk l₁ l₂ l x (by simp) hl

theorem KeepsReady.append {events es : List Event} (hk : KeepsReady events) (hes : ∀ e ∈ es, e.IsLoss) (hn : ¬ Ready events) :
    KeepsReady (events ++ es) := by
  induction es using List.reverseRecOn with
  | nil => simpa using hk
  | append_singleton es e ih =>
    have hes' : ∀ x ∈ es, x.IsLoss := fun x hx => hes x (by simp [hx])
    rw [← List.append_assoc]
    exact (ih hes').note fun _ hr => hn (hr.of_append hes')

/-! ## The invariant -/

/-- What a ready cache is kept by: its file is there, and no marker is. At most one marker is there at a time. -/
structure Keeping (w : World) : Prop where
  kept : KeepsReady w.events
  apart : w.profile.files .createMarker = false ∨ w.profile.files .resetMarker = false
  database : Ready w.events → w.profile.files .database = true
  createMarker : Ready w.events → w.profile.files .createMarker = false
  resetMarker : Ready w.events → w.profile.files .resetMarker = false

theorem Keeping.opens {dek : Dek} {w w' : World} (hw : Keeping w) (ho : Opens h dek w w') : Keeping w' := by
  obtain ⟨hc, hr, -, he, hdb, -, -⟩ := ho
  refine ⟨by rw [he]; exact hw.kept, by rw [hc, hr]; exact hw.apart, ?_, ?_, ?_⟩ <;> rw [he] <;> intro hready
  · exact hdb (hw.database hready)
  · exact hc.trans (hw.createMarker hready)
  · exact hr.trans (hw.resetMarker hready)

theorem Keeping.clears {w w' : World} (hw : Keeping w) (hn : ¬ Ready w.events) (hc : Clears w w') :
    Keeping w' ∧ ¬ Ready w'.events := by
  obtain ⟨hcreate, hreset, -, es, he, hes⟩ := hc
  have hn' : ¬ Ready w'.events := by rw [he]; exact fun hr => hn (hr.of_append hes)
  refine ⟨⟨by rw [he]; exact hw.kept.append hes hn, ?_, fun hr => absurd hr hn', fun hr => absurd hr hn', fun hr => absurd hr hn'⟩, hn'⟩
  rw [hcreate, hreset]
  exact hw.apart

theorem Keeping.marks {f : ProfileFile} {there : Bool} {w w' : World} (hw : Keeping w) (hm : Marks f there w w') (hn : ¬ Ready w.events)
    (ha : (w.profile.setFile f there).files .createMarker = false ∨ (w.profile.setFile f there).files .resetMarker = false) :
    Keeping w' := by
  obtain ⟨hp, he⟩ := hm
  rw [← he] at hn
  refine ⟨by rw [he]; exact hw.kept, ?_, fun hr => absurd hr hn, fun hr => absurd hr hn, fun hr => absurd hr hn⟩
  rcases hp with hp | hp <;> rw [hp]
  · exact hw.apart
  · exact ha

/-- What a run ends with: a success may be noted. -/
def Settles (r : Except BootstrapFailure Unit) (w : World) : Prop :=
  Keeping w ∧ ∀ a, r = .ok a → w.profile.files .database = true ∧ w.profile.files .createMarker = false ∧
    w.profile.files .resetMarker = false

theorem Settles.error {x : BootstrapFailure} {w : World} (hw : Keeping w) : Settles (.error x) w := ⟨hw, by rintro a ⟨⟩⟩

theorem Settles.settle {r : Except BootstrapFailure Unit} {w : World} (hs : Settles r w) : Keeping (w.settle (some r)) := by
  obtain ⟨hw, hok⟩ := hs
  cases r with
  | error x => exact hw
  | ok a =>
    obtain ⟨hdb, hc, hr⟩ := hok a rfl
    exact ⟨hw.kept.note fun hl => hl.elim, .inl hc, fun _ => hdb, fun _ => hc, fun _ => hr⟩

/-! ## Every start keeps it -/

/-- Nothing is ready, and no creation is under way. -/
structure Resetting (w : World) : Prop extends Keeping w where
  unready : ¬ Ready w.events
  uncreating : w.profile.files .createMarker = false

theorem Resetting.clears {w w' : World} (hw : Resetting w) (hc : Clears w w') : Resetting w' :=
  ⟨(hw.toKeeping.clears hw.unready hc).1, (hw.toKeeping.clears hw.unready hc).2, hc.createMarker.trans hw.uncreating⟩

theorem Resetting.opens {dek : Dek} {w w' : World} (hw : Resetting w) (ho : Opens h dek w w') : Resetting w' :=
  ⟨hw.toKeeping.opens ho, by rw [ho.events]; exact hw.unready, ho.createMarker.trans hw.uncreating⟩

theorem Resetting.marks {there : Bool} {w w' : World} (hw : Resetting w) (hm : Marks .resetMarker there w w') : Resetting w' :=
  ⟨hw.toKeeping.marks hm hw.unready (.inl hw.uncreating), by rw [hm.events]; exact hw.unready,
    (hm.files (by decide)).trans hw.uncreating⟩

theorem resumeReset_keeps {hook : ResetPhase → Startup Unit} (hh : IsHook h hook) {w : World} (hw : Resetting w) :
    (keeps (perform h) Keeping).wpA (resumeReset hook) Settles w := by
  have pause (phase : ResetPhase) {next : Startup Unit} {v : World} (hv : Keeping v)
      (hnext : (keeps (perform h) Keeping).wpA next Settles v) :
      (keeps (perform h) Keeping).wpA (do hook phase; next) Settles v :=
    Contract.wpA_bind_of (hh _ phase v hv) (fun _ _ ⟨hv', _⟩ => hv' ▸ hnext) fun _ _ ⟨hv', _⟩ => hv' ▸ .error hv
  unfold resumeReset
  refine Contract.wpA_bind_of (deleteDatabaseArtifacts_spec fun _ hc => (hw.clears hc).toKeeping)
    (fun _ w₁ ⟨hc, _⟩ => ?_) fun _ _ ⟨hc, _⟩ => .error (hw.clears hc).toKeeping
  have h₁ := hw.clears hc
  refine pause _ h₁.toKeeping ?_
  refine Contract.wpA_bind_of (deleteDek_spec h₁.toKeeping) (fun _ w₂ ⟨⟨hc, _⟩, _⟩ => ?_)
    fun _ _ ⟨⟨hc, _⟩, _⟩ => .error (h₁.clears hc).toKeeping
  have h₂ := h₁.clears hc
  refine pause _ h₂.toKeeping ?_
  refine Contract.wpA_bind_of (generate_spec h₂.toKeeping) (fun dek w₃ ⟨hw₃, _⟩ => ?_) fun _ _ ⟨hw₃, _⟩ => hw₃ ▸ .error h₂.toKeeping
  subst hw₃
  refine pause _ h₂.toKeeping ?_
  refine Contract.wpA_bind_of (storeDek_spec h₂.toKeeping) (fun _ w₃ ⟨⟨hc, _⟩, _⟩ => ?_)
    fun _ _ ⟨⟨hc, _⟩, _⟩ => .error (h₂.clears hc).toKeeping
  have h₃ := h₂.clears hc
  refine pause _ h₃.toKeeping ?_
  refine Contract.wpA_bind_of (openDatabase_spec fun _ ho => (h₃.opens ho).toKeeping) (fun _ w₄ ⟨ho, _⟩ => ?_)
    fun _ _ ⟨ho, _⟩ => .error (h₃.opens ho.opens).toKeeping
  have h₄ := h₃.opens ho.opens
  have hdb := ho.database _ rfl
  refine pause _ h₄.toKeeping ?_
  refine Contract.wpA_bind_of (runtimeVersions_spec fun _ ho => (h₄.opens ho).toKeeping) (fun _ w₅ ho => ?_)
    fun _ _ ho => .error (h₄.opens ho.opens).toKeeping
  have h₅ := h₄.opens ho.opens
  replace hdb := ho.opens.database hdb
  refine pause _ h₅.toKeeping ?_
  refine Contract.wpA_bind_of (removeDurable_spec (by decide) fun _ hm => (h₅.marks hm).toKeeping) (fun _ w₆ ⟨hm, hgone, _⟩ => ?_)
    fun _ _ ⟨hm, _⟩ => .error (h₅.marks hm).toKeeping
  have h₆ := h₅.marks hm
  replace hdb := (hm.files (by decide)).trans hdb
  exact Contract.wpA_mono _ (fun _ _ ⟨hw', _⟩ => hw' ▸ ⟨h₆.toKeeping, fun _ _ => ⟨hdb, h₆.uncreating, hgone rfl⟩⟩) (hh _ _ _ h₆.toKeeping)

theorem authorizedReset_keeps {w : World} (hw : Resetting w) :
    (keeps (perform h) Keeping).wpA authorizedReset Settles w := by
  unfold authorizedReset
  refine Contract.wpA_bind_of (createDurable_spec fun _ hm => (hw.marks hm).toKeeping) (fun _ w₁ ⟨hm, _⟩ => ?_)
    fun _ _ ⟨hm, _⟩ => .error (hw.marks hm).toKeeping
  have h₁ := hw.marks hm
  refine Contract.wpA_bind_of (callHook_isHook _ _ _ h₁.toKeeping) (fun _ _ ⟨hw₂, _⟩ => ?_) fun _ _ ⟨hw₂, _⟩ => hw₂ ▸ .error h₁.toKeeping
  subst hw₂
  refine Contract.wpA_bind_of (callHook_isHook _ _ _ h₁.toKeeping) (fun _ _ ⟨hw₂, _⟩ => ?_) fun _ _ ⟨hw₂, _⟩ => hw₂ ▸ .error h₁.toKeeping
  subst hw₂
  exact resumeReset_keeps callHook_isHook h₁

/-- Nothing is ready, and no reset is under way. -/
structure Creating (w : World) : Prop extends Keeping w where
  unready : ¬ Ready w.events
  unresetting : w.profile.files .resetMarker = false

theorem Creating.clears {w w' : World} (hw : Creating w) (hc : Clears w w') : Creating w' :=
  ⟨(hw.toKeeping.clears hw.unready hc).1, (hw.toKeeping.clears hw.unready hc).2, hc.resetMarker.trans hw.unresetting⟩

theorem Creating.opens {dek : Dek} {w w' : World} (hw : Creating w) (ho : Opens h dek w w') : Creating w' :=
  ⟨hw.toKeeping.opens ho, by rw [ho.events]; exact hw.unready, ho.resetMarker.trans hw.unresetting⟩

theorem Creating.marks {there : Bool} {w w' : World} (hw : Creating w) (hm : Marks .createMarker there w w') : Creating w' :=
  ⟨hw.toKeeping.marks hm hw.unready (.inr hw.unresetting), by rw [hm.events]; exact hw.unready,
    (hm.files (by decide)).trans hw.unresetting⟩

/-- Both creations end so. -/
theorem openAndUnmark_keeps {dek : Dek} {w : World} (hw : Creating w) :
    (keeps (perform h) Keeping).wpA (do openDatabase dek; removeDurable .createMarker) Settles w := by
  refine Contract.wpA_bind_of (openDatabase_spec fun _ ho => (hw.opens ho).toKeeping) (fun _ w₁ ⟨ho, _⟩ => ?_)
    fun _ _ ⟨ho, _⟩ => .error (hw.opens ho.opens).toKeeping
  have h₁ := hw.opens ho.opens
  have hdb := ho.database _ rfl
  refine Contract.wpA_mono _ (fun r w' ⟨hm, hgone, _⟩ => ?_) (removeDurable_spec (by decide) fun _ hm => (h₁.marks hm).toKeeping)
  refine ⟨(h₁.marks hm).toKeeping, fun a ha => ⟨(hm.files (by decide)).trans hdb, hgone ha, (h₁.marks hm).unresetting⟩⟩

theorem createNewDatabase_keeps {dek : Dek} {w : World} (hw : Creating w) :
    (keeps (perform h) Keeping).wpA (createNewDatabase dek) Settles w := by
  unfold createNewDatabase
  refine Contract.wpA_bind_of (createDurable_spec fun _ hm => (hw.marks hm).toKeeping) (fun _ w₁ ⟨hm, _⟩ => ?_)
    fun _ _ ⟨hm, _⟩ => .error (hw.marks hm).toKeeping
  exact openAndUnmark_keeps (hw.marks hm)

/-- A new key, for whatever is to be done with it. -/
theorem newKey_keeps {w : World} (hw : Creating w) {next : Dek → Startup Unit}
    (hnext : ∀ dek w, Creating w → (keeps (perform h) Keeping).wpA (next dek) Settles w) :
    (keeps (perform h) Keeping).wpA (do let dek ← generate; storeDek dek; next dek) Settles w := by
  refine Contract.wpA_bind_of (generate_spec hw.toKeeping) (fun dek _ ⟨hw₁, _⟩ => ?_) fun _ _ ⟨hw₁, _⟩ => hw₁ ▸ .error hw.toKeeping
  subst hw₁
  exact Contract.wpA_bind_of (storeDek_spec hw.toKeeping) (fun _ _ ⟨⟨hc, _⟩, _⟩ => hnext dek _ (hw.clears hc))
    fun _ _ ⟨⟨hc, _⟩, _⟩ => .error (hw.clears hc).toKeeping

theorem recoverIncompleteCreation_keeps {w : World} (hw : Creating w) :
    (keeps (perform h) Keeping).wpA recoverIncompleteCreation Settles w := by
  unfold recoverIncompleteCreation
  refine Contract.wpA_bind_of (deleteDatabaseArtifacts_spec fun _ hc => (hw.clears hc).toKeeping)
    (fun _ w₁ ⟨hc, _⟩ => ?_) fun _ _ ⟨hc, _⟩ => .error (hw.clears hc).toKeeping
  have h₁ := hw.clears hc
  refine Contract.wpA_bind_of (loadDek_spec h₁.toKeeping) (fun found _ ⟨hw₂, _⟩ => ?_) fun _ _ ⟨hw₂, _⟩ => hw₂ ▸ .error h₁.toKeeping
  subst hw₂
  cases found with
  | absent => exact newKey_keeps h₁ fun dek v hv => openAndUnmark_keeps hv
  | present dek => exact openAndUnmark_keeps h₁

/-- The part of a start after its markers. -/
theorem openOrCreate_keeps (hb : ¬ h.blindProbes) {w : World} (hw : Keeping w) (hreset : w.profile.files .resetMarker = false)
    (hcreate : w.profile.files .createMarker = false) :
    (keeps (perform h) Keeping).wpA (do
      let databaseExists ← anyDatabaseArtifact
      match ← loadDek with
      | .absent =>
        if databaseExists then throw .keyLost
        else do
          let dek ← generate
          storeDek dek
          createNewDatabase dek
      | .present dek => if databaseExists then openDatabase dek else createNewDatabase dek) Settles w := by
  refine Contract.wpA_bind_of (anyExists_spec hw) (fun databaseExists _ ⟨hw₁, b, hd, _, hall⟩ => ?_) fun _ _ ⟨_, b, hd, _⟩ => by cases hd
  subst hw₁
  cases hd
  replace hall := hall hb
  refine Contract.wpA_bind_of (loadDek_spec hw) (fun found _ ⟨hw₁, _⟩ => ?_) fun _ _ ⟨hw₁, _⟩ => hw₁ ▸ .error hw
  subst hw₁
  cases databaseExists with
  | true =>
    cases found with
    | absent => exact .error hw
    | present dek =>
      refine Contract.wpA_mono _ (fun r w' ⟨ho, _⟩ => ⟨hw.opens ho.opens, fun a ha => ⟨ho.database a ha, ?_, ?_⟩⟩)
        (openDatabase_spec fun _ ho => hw.opens ho)
      · exact ho.opens.createMarker.trans hcreate
      · exact ho.opens.resetMarker.trans hreset
  | false =>
    have hc : Creating _ := ⟨hw, fun hr => by simp [artifacts, hw.database hr] at hall, hreset⟩
    cases found with
    | absent => exact newKey_keeps hc fun dek v hv => createNewDatabase_keeps hv
    | present dek => exact createNewDatabase_keeps hc

theorem bootstrapLocalCache_keeps (hb : ¬ h.blindProbes) {w : World} (hw : Keeping w) :
    (keeps (perform h) Keeping).wpA bootstrapLocalCache Settles w := by
  unfold bootstrapLocalCache
  refine Contract.wpA_bind_of (probe_spec hw) (fun resetting _ ⟨hw₁, b, hr, _, hsees⟩ => ?_) fun _ _ ⟨_, b, hr, _⟩ => by cases hr
  subst hw₁
  cases hr
  have hreset := hsees hb
  cases resetting with
  | true =>
    refine resumeReset_keeps noHook_isHook ⟨hw, fun hr => ?_, ?_⟩
    · rw [hw.resetMarker hr] at hreset; cases hreset
    · exact hw.apart.resolve_right (by simp [← hreset])
  | false =>
    refine Contract.wpA_bind_of (probe_spec hw) (fun creating _ ⟨hw₁, b, hc, _, hsees⟩ => ?_) fun _ _ ⟨_, b, hc, _⟩ => by cases hc
    subst hw₁
    cases hc
    have hcreate := hsees hb
    cases creating with
    | true =>
      refine recoverIncompleteCreation_keeps ⟨hw, fun hr => ?_, hreset.symm⟩
      rw [hw.createMarker hr] at hcreate
      cases hcreate
    | false =>
      refine Contract.wpA_bind_of (hasOrphanSidecar_spec hw) (fun orphan _ ⟨hw₁, _⟩ => ?_) fun _ _ ⟨_, b, ho, _⟩ => by cases ho
      subst hw₁
      cases orphan with
      | true => exact .error hw
      | false => exact openOrCreate_keeps hb hw hreset.symm hcreate.symm

/-! ## Runs -/

theorem Keeping.step (hb : ¬ h.blindProbes) (hr : ¬ h.hastyResets) {w w' : World} (hw : Keeping w) (hs : Step h w w') : Keeping w' := by
  have settle {o : Option (Except BootstrapFailure Unit)} {v : World} (hv : Keeping v)
      (ho : ∀ r, o = some r → Settles r v) : Keeping (v.settle o) := by
    cases o with
    | none => exact hv
    | some r => exact (ho r rfl).settle
  cases hs with
  | bootstrap he =>
    have hk := Exec.sound he hw (bootstrapLocalCache_keeps hb hw) fun _ _ hs => hs.1
    exact settle hk.1 hk.2
  | reset hhasty he =>
    have hcreate : w.profile.files .createMarker = false := by
      by_contra hn
      exact hr (hhasty (by simpa using hn))
    have hunready : ¬ Ready (w.note .authorized).events := fun h => by
      rcases h.of_snoc with h | ⟨-, h⟩
      · cases h
      · exact h rfl
    have hstart : Resetting (w.note .authorized) :=
      ⟨⟨hw.kept.note fun h => h.elim, .inl hcreate, fun h => absurd h hunready, fun h => absurd h hunready,
        fun h => absurd h hunready⟩, hunready, hcreate⟩
    have hk := Exec.sound he hstart.toKeeping (authorizedReset_keeps hstart) fun _ _ hs => hs.1
    exact settle hk.1 hk.2
  | use hst _ =>
    exact ⟨hw.kept, by simp only [hst.createMarker, hst.resetMarker]; exact hw.apart,
      fun h => hst.database.trans (hw.database h), fun h => hst.createMarker.trans (hw.createMarker h),
      fun h => hst.resetMarker.trans (hw.resetMarker h)⟩

/-- Whatever fails and wherever a run crashes: if no probe misses a file and no reset is authorised while a creation
has its marker, then once an engine was ready nothing of it is deleted before the next authorised reset. -/
theorem ready_cache_kept {p : Profile} (hp : p.files .createMarker = false ∨ p.files .resetMarker = false) {w : World}
    (hr : Runs ⟨True, False, False⟩ ⟨p, []⟩ w) : KeepsReady w.events := by
  suffices hw : Keeping w from hw.kept
  induction hr with
  | refl =>
    have hunready : ¬ Ready [] := by rintro ⟨l₁, l₂, he, -⟩; simp at he
    exact ⟨fun l₁ l₂ l₃ e he => by simp at he, hp, fun h => absurd h hunready, fun h => absurd h hunready, fun h => absurd h hunready⟩
  | tail _ hs ih => exact ih.step id id hs

/-! ## Runs -/

/-- A start, an authorised reset, and another start. -/
def sampleWorld : World :=
  ((firstRun.start sees neverStops sampleKey).reset sees neverStops sampleKey).start sees neverStops sampleKey

theorem sampleWorld_kept :
    sampleWorld.events = [.succeeded, .authorized, .deletedFile .database, .deletedKey, .succeeded, .succeeded] ∧
      KeepsReady sampleWorld.events := by
  refine ⟨by decide, ready_cache_kept (p := .empty) (.inl (by rfl)) ?_⟩
  refine .tail (.tail (.tail .refl (World.start_step sees_found neverStops sampleKey firstRun)) (World.reset_step sees_found _ _ ?_))
    (World.start_step sees_found _ _ _)
  intro hc
  exact absurd hc (by decide)

/-- The first start ends before it removes its marker; a reset succeeds; then there is another start. -/
def hastyReset : World :=
  ((firstRun.start sees (stopsBeforeRemoving .createMarker) sampleKey).reset sees neverStops sampleKey).start sees neverStops sampleKey

theorem hastyReset_events : hastyReset.events =
    [.authorized, .deletedFile .database, .deletedKey, .succeeded, .deletedFile .database, .succeeded] := by
  decide

/-- A probe that does not see the marker of a reset. -/
def overlooks (f : ProfileFile) (there : Bool) : Bool := there && f ≠ .resetMarker

/-- A reset ends before it removes its marker; a start does not see the marker, and the next one does. -/
def unseenMarker : World :=
  (((firstRun.start sees neverStops sampleKey).reset sees (stopsBeforeRemoving .resetMarker) sampleKey).start
    overlooks neverStops sampleKey).start sees neverStops sampleKey

theorem unseenMarker_events : unseenMarker.events =
    [.succeeded, .authorized, .deletedFile .database, .deletedKey, .succeeded, .deletedFile .database, .deletedKey, .succeeded] := by
  decide_cbv

/-- A ready cache is deleted by a later start: after a reset that left the marker of a creation, and after a start that
did not see the marker of a reset. -/
theorem ready_cache_lost :
    (∃ w, Runs ⟨False, False, True⟩ firstRun w ∧ ¬ KeepsReady w.events) ∧
      ∃ w, Runs ⟨False, True, False⟩ firstRun w ∧ ¬ KeepsReady w.events := by
  refine ⟨⟨hastyReset, ?_, fun hk => ?_⟩, unseenMarker, ?_, fun hk => ?_⟩
  · exact .tail (.tail (.tail .refl (World.start_step sees_found _ _ _)) (World.reset_step sees_found _ _ fun _ => trivial))
      (World.start_step sees_found _ _ _)
  · simpa using hk [.authorized, .deletedFile .database, .deletedKey] [] [.succeeded] (.deletedFile .database)
      hastyReset_events trivial
  · refine .tail (.tail (.tail (.tail .refl (World.start_step sees_found _ _ _)) (World.reset_step sees_found _ _ ?_))
      (World.start_step ?_ _ _ _)) (World.start_step sees_found _ _ _)
    · intro hc
      exact absurd hc (by decide)
    · exact fun f there => ⟨by simp only [overlooks, Bool.and_eq_true]; exact And.left, fun _ _ => trivial⟩
  · simpa using hk [.succeeded, .authorized, .deletedFile .database, .deletedKey] [] [.deletedKey, .succeeded]
      (.deletedFile .database) unseenMarker_events trivial

end Boxplot.Bootstrap
