import Boxplot.Bootstrap.Answer
import Boxplot.Bootstrap.Effects
/-!
# Recovery from crashes

However often a start or a reset was cut off, the next start that runs to its
end succeeds: while a database is not complete under the stored key, a marker
is there.
-/

namespace Boxplot.Bootstrap

open Lib

/-- No call fails and no probe errs; a process may end anywhere. -/
def crashesOnly : Hazards := ⟨False, False, True⟩

theorem noFailures : ¬ crashesOnly.failures := id

theorem noBlindProbes : ¬ crashesOnly.blindProbes := id

/-! ## The invariant -/

def Profile.Bare (p : Profile) : Prop := ∀ f ∈ artifacts, p.files f = false

/-- A marker says what to do, or there is no database at all, or a complete one. -/
def Recoverable (w : World) : Prop :=
  w.profile.files .resetMarker = true ∨ w.profile.files .createMarker = true ∨ w.profile.Bare ∨ ∃ dek, w.profile.Complete dek

variable {h : Hazards} {dek : Dek} {w w' : World}

theorem Profile.Bare.openable {p : Profile} (hp : p.Bare) (dek : Dek) : p.Openable dek := .inr hp

theorem Profile.Complete.openable {p : Profile} (hp : p.Complete dek) : p.Openable dek := .inl ⟨hp.1, .inr ⟨true, hp.2.2⟩⟩

theorem Profile.Complete.marks {f : ProfileFile} {there : Bool} (hf : f ≠ .database) (hw : w.profile.Complete dek)
    (hm : Marks f there w w') : w'.profile.Complete dek :=
  ⟨(hm.files hf.symm).trans hw.1, hm.slot.trans hw.2.1, hm.content.trans hw.2.2⟩

/-- What a run that does not crash ends with. -/
def Recovers (r : Except BootstrapFailure Unit) (w : World) : Prop := r = .ok () ∧ Recoverable w

/-! ## Parts that succeed -/

theorem removeMarker_recovers {f : ProfileFile} (hf : f ∉ artifacts) (hw : w.profile.Complete dek) :
    (keeps (perform crashesOnly) Recoverable).wpA (removeDurable f) Recovers w := by
  have hkeeps {w' : World} (hm : Marks f false w w') : Recoverable w' :=
    .inr (.inr (.inr ⟨dek, hw.marks (by rintro rfl; simp [artifacts] at hf) hm⟩))
  refine Contract.wpA_mono _ ?_ (removeDurable_spec hf fun _ hm => hkeeps hm)
  rintro _ _ ⟨hm, -, hok⟩
  exact ⟨hok noFailures, hkeeps hm⟩

/-- A database that is opened under the stored key is complete. -/
theorem openDatabase_completes (hI : ∀ w', Opens crashesOnly dek w w' → Recoverable w') (hs : w.profile.slot = some dek)
    (ho : w.profile.Openable dek) :
    (keeps (perform crashesOnly) Recoverable).wpA (openDatabase dek)
      (fun r w' => ∃ a, r = .ok a ∧ Opens crashesOnly dek w w' ∧ w'.profile.Complete dek) w := by
  refine Contract.wpA_mono _ (fun r w' ⟨hopened, hcontent⟩ => ?_) (openDatabase_spec hI)
  obtain ⟨⟨⟩, rfl⟩ := hopened.succeeds noFailures ho
  exact ⟨(), rfl, hopened.opens, hopened.database _ rfl, hopened.opens.slot.trans hs, hcontent noFailures rfl⟩

theorem deleteDatabaseArtifacts_bares (hI : ∀ w', Clears w w' → Recoverable w') :
    (keeps (perform crashesOnly) Recoverable).wpA deleteDatabaseArtifacts
      (fun r w' => ∃ a, r = .ok a ∧ Clears w w' ∧ w'.profile.Bare) w :=
  Contract.wpA_mono _ (fun _ _ ⟨hc, hnone, hok⟩ => ⟨(), hok noFailures, hc, hnone (hok noFailures)⟩) (deleteDatabaseArtifacts_spec hI)

theorem generate_succeeds (hw : Recoverable w) :
    (keeps (perform crashesOnly) Recoverable).wpA generate (fun r w' => ∃ dek, r = .ok dek ∧ w' = w) w :=
  Contract.wpA_mono _ (fun _ _ ⟨hw', hok⟩ => (hok noFailures).imp fun _ hr => ⟨hr, hw'⟩) (generate_spec hw)

theorem storeDek_succeeds (hw : Recoverable w) :
    (keeps (perform crashesOnly) Recoverable).wpA (storeDek dek) (fun r w' => ∃ a, r = .ok a ∧
      w'.profile.files = w.profile.files ∧ w'.profile.slot = some dek) w :=
  Contract.wpA_mono _ (fun _ _ ⟨hc, hslot, hok⟩ => ⟨(), hok noFailures, hc.2, hslot (hok noFailures)⟩) (storeDek_spec hw)

theorem loadDek_succeeds (hw : Recoverable w) :
    (keeps (perform crashesOnly) Recoverable).wpA loadDek (fun r w' => ∃ l, r = .ok l ∧ w' = w ∧ l = w.profile.lookup) w :=
  Contract.wpA_mono _ (fun _ _ ⟨hw', _, hok⟩ => ⟨_, hok noFailures, hw', rfl⟩) (loadDek_spec hw)

theorem createDurable_succeeds {f : ProfileFile} (hI : ∀ w', Marks f true w w' → Recoverable w') :
    (keeps (perform crashesOnly) Recoverable).wpA (createDurable f)
      (fun r w' => ∃ a, r = .ok a ∧ Marks f true w w' ∧ w'.profile.files f = true) w :=
  Contract.wpA_mono _ (fun _ _ ⟨hm, hthere, hok⟩ => ⟨(), hok noFailures, hm, hthere (hok noFailures)⟩) (createDurable_spec hI)

theorem hook_succeeds {hook : ResetPhase → Startup Unit} (hh : IsHook crashesOnly hook) (phase : ResetPhase) (hw : Recoverable w) :
    (keeps (perform crashesOnly) Recoverable).wpA (hook phase) (fun r w' => ∃ a, r = .ok a ∧ w' = w) w :=
  Contract.wpA_mono _ (fun _ _ ⟨hw', hok⟩ => ⟨(), hok noFailures, hw'⟩) (hh _ phase w hw)

/-! ## Every run recovers -/

theorem resumeReset_recovers {hook : ResetPhase → Startup Unit} (hh : IsHook crashesOnly hook)
    (hr : w.profile.files .resetMarker = true) :
    (keeps (perform crashesOnly) Recoverable).wpA (resumeReset hook) Recovers w := by
  have pause (phase : ResetPhase) {next : Startup Unit} {v : World} (hv : Recoverable v)
      (hnext : (keeps (perform crashesOnly) Recoverable).wpA next Recovers v) :
      (keeps (perform crashesOnly) Recoverable).wpA (do hook phase; next) Recovers v :=
    Contract.wpA_bind_ok (hook_succeeds hh phase hv) fun _ _ hv' => hv' ▸ hnext
  unfold resumeReset
  refine Contract.wpA_bind_ok (deleteDatabaseArtifacts_bares fun _ hc => .inl (hc.resetMarker.trans hr)) fun _ w₁ ⟨hc, hbare⟩ => ?_
  replace hr := hc.resetMarker.trans hr
  refine pause _ (.inl hr) ?_
  refine Contract.wpA_bind_ok (P := fun _ w' => w'.profile.files = w₁.profile.files) (Contract.wpA_mono _ (fun _ _ ⟨hc, _, hok⟩ =>
    ⟨(), hok noFailures, hc.2⟩) (deleteDek_spec (.inl hr))) fun _ w₂ hfiles => ?_
  rw [← hfiles] at hr
  replace hbare : w₂.profile.Bare := fun f hf => by rw [hfiles]; exact hbare f hf
  refine pause _ (.inl hr) ?_
  refine Contract.wpA_bind_ok (generate_succeeds (.inl hr)) fun dek w' hw' => ?_
  subst hw'
  refine pause _ (.inl hr) ?_
  refine Contract.wpA_bind_ok (storeDek_succeeds (.inl hr)) fun _ w₃ ⟨hfiles, hslot⟩ => ?_
  rw [← hfiles] at hr
  replace hbare : w₃.profile.Bare := fun f hf => by rw [hfiles]; exact hbare f hf
  refine pause _ (.inl hr) ?_
  refine Contract.wpA_bind_ok (openDatabase_completes (fun _ ho => .inl (ho.resetMarker.trans hr)) hslot (hbare.openable dek))
    fun _ w₄ ⟨ho, hcomplete⟩ => ?_
  replace hr := ho.resetMarker.trans hr
  refine pause _ (.inl hr) ?_
  refine Contract.wpA_bind_ok (P := fun _ w' => w'.profile.files .resetMarker = true ∧ w'.profile.Complete dek)
    (Contract.wpA_mono _ (fun _ _ ho => ?_) (runtimeVersions_spec fun _ ho => .inl (ho.resetMarker.trans hr)))
    fun _ w₅ ⟨hr, hcomplete⟩ => ?_
  · obtain ⟨v, hv⟩ := ho.succeeds noFailures hcomplete.openable
    exact ⟨v, hv, ho.opens.resetMarker.trans hr, ho.opens.complete noFailures hcomplete⟩
  refine pause _ (.inl hr) ?_
  refine Contract.wpA_bind_ok (P := fun _ w' => Recoverable w') (Contract.wpA_mono _ (fun _ _ ⟨hok, hw'⟩ => ⟨(), hok, hw'⟩)
    (removeMarker_recovers (by decide) hcomplete)) fun _ w₆ h₆ => ?_
  exact Contract.wpA_mono _ (fun _ _ ⟨_, hok, hw'⟩ => ⟨hok, hw' ▸ h₆⟩) (hook_succeeds hh _ h₆)

/-- A reset may be authorised in any recoverable state. -/
theorem authorizedReset_recovers (hw : Recoverable w) :
    (keeps (perform crashesOnly) Recoverable).wpA authorizedReset Recovers w := by
  unfold authorizedReset
  have hmark {w' : World} (hm : Marks .resetMarker true w w') : Recoverable w' := by
    rcases hm.profile with hp | hp
    · unfold Recoverable
      rw [hp]
      exact hw
    · exact .inl (by simp [hp, Profile.setFile])
  refine Contract.wpA_bind_ok (createDurable_succeeds fun _ hm => hmark hm) ?_
  rintro _ w₁ ⟨hm, hr⟩
  refine Contract.wpA_bind_ok (hook_succeeds callHook_isHook _ (.inl hr)) fun _ w' hw' => ?_
  subst hw'
  refine Contract.wpA_bind_ok (hook_succeeds callHook_isHook _ (.inl hr)) fun _ w' hw' => ?_
  subst hw'
  exact resumeReset_recovers callHook_isHook hr

/-- Both creations end so, under the marker of a creation. -/
theorem openAndUnmark_recovers (hc : w.profile.files .createMarker = true) (hs : w.profile.slot = some dek) (hbare : w.profile.Bare) :
    (keeps (perform crashesOnly) Recoverable).wpA (do openDatabase dek; removeDurable .createMarker) Recovers w :=
  Contract.wpA_bind_ok (openDatabase_completes (fun _ ho => .inr (.inl (ho.createMarker.trans hc))) hs (hbare.openable dek))
    fun _ _ ⟨_, hcomplete⟩ => removeMarker_recovers (by decide) hcomplete

theorem createNewDatabase_recovers (hs : w.profile.slot = some dek) (hbare : w.profile.Bare) :
    (keeps (perform crashesOnly) Recoverable).wpA (createNewDatabase dek) Recovers w := by
  have hfiles {w' : World} (hm : Marks .createMarker true w w') : w'.profile.Bare := fun f hf =>
    (hm.files (by rintro rfl; simp [artifacts] at hf)).trans (hbare f hf)
  refine Contract.wpA_bind_ok (createDurable_succeeds fun _ hm => .inr (.inr (.inl (hfiles hm)))) ?_
  rintro _ _ ⟨hm, hc⟩
  exact openAndUnmark_recovers hc (hm.slot.trans hs) (hfiles hm)

/-- A new key, while whatever makes the state recoverable is in the files. -/
theorem newKey_recovers {next : Dek → Startup Unit}
    (hw : ∀ w', w'.profile.files = w.profile.files → Recoverable w')
    (hnext : ∀ dek w', w'.profile.files = w.profile.files → w'.profile.slot = some dek →
      (keeps (perform crashesOnly) Recoverable).wpA (next dek) Recovers w') :
    (keeps (perform crashesOnly) Recoverable).wpA (do let dek ← generate; storeDek dek; next dek) Recovers w := by
  refine Contract.wpA_bind_ok (generate_succeeds (hw w rfl)) fun dek w' hw' => ?_
  subst hw'
  exact Contract.wpA_bind_ok (storeDek_succeeds (hw _ rfl)) fun _ w' ⟨hfiles, hslot⟩ => hnext dek w' hfiles hslot

theorem recoverIncompleteCreation_recovers (hc : w.profile.files .createMarker = true) :
    (keeps (perform crashesOnly) Recoverable).wpA recoverIncompleteCreation Recovers w := by
  unfold recoverIncompleteCreation
  refine Contract.wpA_bind_ok (deleteDatabaseArtifacts_bares fun _ hclears => .inr (.inl (hclears.createMarker.trans hc)))
    fun _ w₁ ⟨hclears, hbare⟩ => ?_
  replace hc := hclears.createMarker.trans hc
  refine Contract.wpA_bind_ok (loadDek_succeeds (.inr (.inl hc))) fun found w' ⟨hw', hfound⟩ => ?_
  subst hw'
  unfold Profile.lookup at hfound
  cases hslot : w'.profile.slot with
  | none =>
    rw [hslot] at hfound
    subst hfound
    exact newKey_recovers (fun v hv => .inr (.inl (by rw [hv]; exact hc))) fun dek v hv hs =>
      openAndUnmark_recovers (by rw [hv]; exact hc) hs fun f hf => by rw [hv]; exact hbare f hf
  | some dek =>
    rw [hslot] at hfound
    subst hfound
    exact openAndUnmark_recovers hc hslot hbare

theorem probe_sees {f : ProfileFile} (hw : Recoverable w) :
    (keeps (perform crashesOnly) Recoverable).wpA (probe f) (fun r w' => ∃ found, r = .ok found ∧ w' = w ∧ found = w.profile.files f) w :=
  Contract.wpA_mono _ (fun _ _ ⟨hw', found, hr, _, hsees⟩ => ⟨found, hr, hw', hsees noBlindProbes⟩) (probe_spec hw)

/-- Without a marker there is nothing at all, or a complete database. -/
theorem Recoverable.settled (hw : Recoverable w) (hr : w.profile.files .resetMarker = false)
    (hc : w.profile.files .createMarker = false) : w.profile.Bare ∨ ∃ dek, w.profile.Complete dek := by
  rcases hw with h | h | h
  · rw [hr] at h; cases h
  · rw [hc] at h; cases h
  · exact h

theorem hasOrphanSidecar_sees (hw : Recoverable w) (hs : w.profile.Bare ∨ ∃ dek, w.profile.Complete dek) :
    (keeps (perform crashesOnly) Recoverable).wpA hasOrphanSidecar (fun r w' => ∃ found, r = .ok found ∧ w' = w ∧ found = false) w := by
  refine Contract.wpA_mono _ (fun _ _ ⟨hw', found, hr, hsees⟩ => ⟨found, hr, hw', (hsees noBlindProbes).trans ?_⟩)
    (hasOrphanSidecar_spec hw)
  rcases hs with hbare | ⟨dek, hcomplete⟩
  · simp [artifacts, hbare .wal (by decide), hbare .shm (by decide), hbare .journal (by decide)]
  · simp [hcomplete.1]

theorem openOrCreate_recovers (hw : Recoverable w) (hs : w.profile.Bare ∨ ∃ dek, w.profile.Complete dek) :
    (keeps (perform crashesOnly) Recoverable).wpA (do
      let databaseExists ← anyDatabaseArtifact
      match ← loadDek with
      | .absent =>
        if databaseExists then throw .keyLost
        else do
          let dek ← generate
          storeDek dek
          createNewDatabase dek
      | .present dek => if databaseExists then openDatabase dek else createNewDatabase dek) Recovers w := by
  refine Contract.wpA_bind_ok (P := fun databaseExists w' => w' = w ∧ databaseExists = artifacts.any w.profile.files)
    (Contract.wpA_mono _ ?_ (anyExists_spec hw)) ?_
  · rintro _ _ ⟨hw', found, hr, -, hsees⟩
    exact ⟨found, hr, hw', hsees noBlindProbes⟩
  rintro databaseExists w' ⟨hw', hexists⟩
  subst hw'
  refine Contract.wpA_bind_ok (loadDek_succeeds hw) ?_
  rintro found w' ⟨hw', hfound⟩
  subst hw'
  unfold Profile.lookup at hfound
  rcases hs with hbare | ⟨dek, hcomplete⟩
  · obtain rfl : databaseExists = false := hexists.trans (List.any_eq_false.2 fun f hf => by simp [hbare f hf])
    cases hslot : w'.profile.slot with
    | none =>
      rw [hslot] at hfound
      subst hfound
      have hbare' {v : World} (hv : v.profile.files = w'.profile.files) : v.profile.Bare := fun f hf => by rw [hv]; exact hbare f hf
      exact newKey_recovers (fun v hv => .inr (.inr (.inl (hbare' hv)))) fun dek v hv hs => createNewDatabase_recovers hs (hbare' hv)
    | some dek =>
      rw [hslot] at hfound
      subst hfound
      exact createNewDatabase_recovers hslot hbare
  · obtain rfl : databaseExists = true := hexists.trans (by simp [artifacts, hcomplete.1])
    rw [hcomplete.2.1] at hfound
    subst hfound
    have hkeeps {v : World} (ho : Opens crashesOnly dek w' v) : Recoverable v := .inr (.inr (.inr ⟨dek, ho.complete noFailures hcomplete⟩))
    refine Contract.wpA_mono _ ?_ (openDatabase_completes (fun _ ho => hkeeps ho) hcomplete.2.1 hcomplete.openable)
    rintro _ _ ⟨_, hr, ho, -⟩
    exact ⟨hr, hkeeps ho⟩

theorem bootstrapLocalCache_recovers (hw : Recoverable w) :
    (keeps (perform crashesOnly) Recoverable).wpA bootstrapLocalCache Recovers w := by
  unfold bootstrapLocalCache
  refine Contract.wpA_bind_ok (probe_sees hw) fun resetting w' ⟨hw', hreset⟩ => ?_
  subst hw'
  cases resetting with
  | true => exact resumeReset_recovers noHook_isHook hreset.symm
  | false =>
    refine Contract.wpA_bind_ok (probe_sees hw) fun creating w' ⟨hw', hcreate⟩ => ?_
    subst hw'
    cases creating with
    | true => exact recoverIncompleteCreation_recovers hcreate.symm
    | false =>
      have hs := hw.settled hreset.symm hcreate.symm
      refine Contract.wpA_bind_ok (hasOrphanSidecar_sees hw hs) fun orphan w' ⟨hw', ho⟩ => ?_
      subst hw' ho
      exact openOrCreate_recovers hw hs

/-! ## Runs -/

theorem Recoverable.step {w w' : World} (hw : Recoverable w) (hs : Step crashesOnly w w') : Recoverable w' := by
  have settle {o : Option (Except BootstrapFailure Unit)} {v : World} (hv : Recoverable v) : Recoverable (v.settle o) := by
    rcases o with _ | _ | _ <;> exact hv
  cases hs with
  | bootstrap he => exact settle (Exec.sound he hw (bootstrapLocalCache_recovers hw) fun _ _ hs => hs.2).1
  | reset _ he => exact settle (Exec.sound he hw (authorizedReset_recovers hw) fun _ _ hs => hs.2).1
  | use hst hcontent =>
    rcases hw with h | h | h | ⟨dek, hdb, hslot, hkeyed⟩
    · exact .inl (hst.resetMarker.trans h)
    · exact .inr (.inl (hst.createMarker.trans h))
    · exact .inr (.inr (.inl fun f hf => by rw [hst.sidecars (h .database (by decide))]; exact h f hf))
    · exact .inr (.inr (.inr ⟨dek, hst.database.trans hdb, hst.slot.trans hslot, hcontent.trans hkeyed⟩))

theorem Recoverable.runs {w : World} (hr : Runs crashesOnly firstRun w) : Recoverable w := by
  induction hr with
  | refl => exact .inr (.inr (.inl fun _ _ => rfl))
  | tail _ hs ih => exact ih.step hs

/-- After any starts and resets that crashed anywhere, the next start that runs to its end succeeds, and there is one. -/
theorem bootstrap_recovers {w : World} (hr : Runs crashesOnly firstRun w) :
    (∃ r w', Exec (perform crashesOnly) bootstrapLocalCache.run w (some r) w') ∧
      ∀ r w', Exec (perform crashesOnly) bootstrapLocalCache.run w (some r) w' → r = .ok () := by
  refine ⟨?_, fun r w' he => ?_⟩
  · obtain ⟨r, hr⟩ := Prog.play_ends (fun w c => World.answer_answers sees sampleKey w c) bootstrapLocalCache.run w
    have he := Exec.of_answer (h := crashesOnly) sees_found neverStops sampleKey bootstrapLocalCache w
    rw [hr] at he
    exact ⟨r, _, he⟩
  · exact ((Exec.sound he (.runs hr) (bootstrapLocalCache_recovers (.runs hr)) fun _ _ hs => hs.2).2 r rfl).1

/-- The first start ended before it removed its marker. -/
theorem cut_off_creation_recovers :
    (firstRun.start sees (stopsBeforeRemoving .createMarker) sampleKey).profile.files .createMarker = true ∧
      ∀ r w', Exec (perform crashesOnly) bootstrapLocalCache.run (firstRun.start sees (stopsBeforeRemoving .createMarker) sampleKey)
        (some r) w' → r = .ok () :=
  ⟨by decide +kernel, (bootstrap_recovers (.tail .refl (World.start_step sees_found _ _ _))).2⟩

end Boxplot.Bootstrap
