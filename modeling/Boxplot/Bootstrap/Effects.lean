import Boxplot.Bootstrap.Startup
/-!
# What the parts of a start do

For each part of a start: what it leaves alone wherever it stops, and what holds
when it ends. The specifications hold for whatever is to be kept meanwhile.
-/

namespace Boxplot.Bootstrap

open Lib

theorem wp_ask {α : Type} {C : Contract Call Reply World} {c : Call} {read : Reply c → Except BootstrapFailure α}
    {Q : Except BootstrapFailure α → World → Prop} {w : World} :
    C.wpA (ask c read) Q w ↔ C.may w c ∧ ∀ r w', C.step w c r w' → Q (read r) w' := Iff.rfl

/-! ## Connections -/

variable {h : Hazards} {I : World → Prop} {dek : Dek}

/-- A call of a connection under this key. -/
def Call.OfConnection (dek : Dek) : Call → Prop
  | .openConnection => True
  | .keyConnection k => k = dek
  | .runtimeVersions => True
  | .readSchema k => k = dek
  | .configure k => k = dek
  | .migrate k => k = dek
  | .close => True
  | _ => False

/-- A connection under this key can read what is there, or starts on nothing at all. -/
def Profile.Openable (p : Profile) (dek : Dek) : Prop :=
  (p.files .database = true ∧ p.Readable dek) ∨ ∀ f ∈ artifacts, p.files f = false

/-- A database with its schema, under the key in the key store. -/
def Profile.Complete (p : Profile) (dek : Dek) : Prop :=
  p.files .database = true ∧ p.slot = some dek ∧ p.content = .keyed dek true

/-- What a connection leaves alone. -/
structure Opens (h : Hazards) (dek : Dek) (w w' : World) : Prop where
  createMarker : w'.profile.files .createMarker = w.profile.files .createMarker
  resetMarker : w'.profile.files .resetMarker = w.profile.files .resetMarker
  slot : w'.profile.slot = w.profile.slot
  events : w'.events = w.events
  database : w.profile.files .database = true → w'.profile.files .database = true
  complete : ¬ h.failures → w.profile.Complete dek → w'.profile.Complete dek
  openable : ¬ h.failures → w.profile.Openable dek → w'.profile.Openable dek

theorem Opens.refl (w : World) : Opens h dek w w := ⟨rfl, rfl, rfl, rfl, id, fun _ => id, fun _ => id⟩

theorem Opens.trans {w₁ w₂ w₃ : World} (h₁ : Opens h dek w₁ w₂) (h₂ : Opens h dek w₂ w₃) : Opens h dek w₁ w₃ where
  createMarker := h₂.createMarker.trans h₁.createMarker
  resetMarker := h₂.resetMarker.trans h₁.resetMarker
  slot := h₂.slot.trans h₁.slot
  events := h₂.events.trans h₁.events
  database := h₂.database ∘ h₁.database
  complete hf := h₂.complete hf ∘ h₁.complete hf
  openable hf := h₂.openable hf ∘ h₁.openable hf

theorem Profile.openable_of_there {p : Profile} (hp : p.files .database = true) : p.Openable dek ↔ p.Readable dek := by
  refine ⟨fun h => ?_, fun h => .inl ⟨hp, h⟩⟩
  rcases h with ⟨-, h⟩ | h
  · exact h
  · exact absurd hp (by simp [h .database (by decide)])

theorem Profile.opened_there (p : Profile) : p.opened.files .database = true := by
  unfold Profile.opened
  split
  · assumption
  · simp [Profile.setFile]

theorem Profile.opened_marker (p : Profile) {f : ProfileFile} (hf : f ≠ .database) : p.opened.files f = p.files f := by
  unfold Profile.opened
  split
  · rfl
  · simp [Profile.setFile, hf]

theorem Profile.opened_slot (p : Profile) : p.opened.slot = p.slot := by
  unfold Profile.opened
  split <;> rfl

theorem Profile.opened_of_there {p : Profile} (hp : p.files .database = true) : p.opened = p := if_pos hp

theorem Profile.opened_readable {p : Profile} (hp : p.Openable dek) : p.opened.Readable dek := by
  rcases hp with ⟨hdb, hr⟩ | hnone
  · rwa [Profile.opened_of_there hdb]
  · have hdb : p.files .database = false := hnone _ (by decide)
    have hsidecars : (p.files .wal || p.files .shm || p.files .journal) = false := by
      simp [hnone .wal (by decide), hnone .shm (by decide), hnone .journal (by decide)]
    left
    simp [Profile.opened, hdb, hsidecars]

/-- Work on a database that keeps what it has of the schema, and who can read it. -/
theorem Profile.Stirs.opens {w w' : World} (hs : w.profile.Stirs w'.profile) (he : w'.events = w.events)
    (hc : ¬ h.failures → w.profile.content = .keyed dek true → w'.profile.content = .keyed dek true)
    (hr : ¬ h.failures → w.profile.Readable dek → w'.profile.Readable dek) : Opens h dek w w' where
  createMarker := hs.createMarker
  resetMarker := hs.resetMarker
  slot := hs.slot
  events := he
  database := hs.database.trans
  complete hf hp := ⟨hs.database.trans hp.1, hs.slot.trans hp.2.1, hc hf hp.2.2⟩
  openable hf hp := by
    by_cases hdb : w.profile.files .database = true
    · exact .inl ⟨hs.database.trans hdb, hr hf ((Profile.openable_of_there hdb).1 hp)⟩
    · rw [Bool.not_eq_true] at hdb
      rcases hp with ⟨hdb', -⟩ | hnone
      · rw [hdb] at hdb'; cases hdb'
      · exact .inr fun f hf => by rw [hs.sidecars hdb]; exact hnone f hf

theorem opens_call {c : Call} (hc : c.OfConnection dek) {w w' : World} {r : Reply c} (hp : perform h w c r w') :
    Opens h dek w w' := by
  obtain ⟨ha, he⟩ := hp
  have same (hp : w'.profile = w.profile) (he : w'.events = w.events) : Opens h dek w w' := by
    have hw : w' = w := by cases w; cases w'; simp_all
    rw [hw]; exact .refl w
  cases c with
  | openConnection =>
    have opened (hp : w'.profile = w.profile.opened) : Opens h dek w w' := by
      refine ⟨?_, ?_, ?_, by simpa [Call.losses] using he, fun _ => ?_, fun _ hc => ?_, fun _ ho => .inl ⟨?_, ?_⟩⟩ <;> rw [hp]
      · exact w.profile.opened_marker (by decide)
      · exact w.profile.opened_marker (by decide)
      · exact w.profile.opened_slot
      · exact w.profile.opened_there
      · rwa [Profile.opened_of_there hc.1]
      · exact w.profile.opened_there
      · exact Profile.opened_readable ho
    rcases ha with ⟨-, hp⟩ | ⟨-, -, hp | hp⟩
    · exact opened hp
    · exact same hp (by simpa [Call.losses] using he)
    · exact opened hp
  | keyConnection k =>
    rcases ha with ⟨-, hp⟩ | ⟨-, -, hp | hp⟩ <;> exact same hp (by simpa [Call.losses] using he)
  | runtimeVersions =>
    rcases ha with ⟨-, hp⟩ | ⟨-, -, hp⟩ | ⟨-, -, hp | hp⟩ <;> exact same hp (by simpa [Call.losses] using he)
  | readSchema k =>
    rcases ha with ⟨-, -, hp⟩ | ⟨-, -, hp⟩ | ⟨-, -, hp | hp⟩ <;> exact same hp (by simpa [Call.losses] using he)
  | configure k =>
    obtain rfl := hc
    rcases ha.2 with ⟨-, hcontent⟩ | ⟨-, hfail⟩
    · exact ha.1.opens (by simpa [Call.losses] using he) (fun _ hk => by rw [hcontent, decide_eq_true hk])
        fun _ _ => .inr ⟨_, hcontent⟩
    · exact ha.1.opens (by simpa [Call.losses] using he) (absurd hfail) (absurd hfail)
  | migrate k =>
    obtain rfl := hc
    rcases ha.2 with ⟨-, hcontent⟩ | ⟨-, hfail⟩
    · exact ha.1.opens (by simpa [Call.losses] using he) (fun _ _ => hcontent) fun _ _ => .inr ⟨_, hcontent⟩
    · exact ha.1.opens (by simpa [Call.losses] using he) (absurd hfail) (absurd hfail)
  | close =>
    exact ha.1.opens (by simpa [Call.losses] using he) (fun _ => ha.2.trans) fun _ => by
      simp only [Profile.Readable, ha.2, imp_self]
  | _ => exact hc.elim

/-- What a connection ends with: it leaves alone what it must, a success finds the database there, and without
failures what can be opened is. -/
structure Opened (h : Hazards) (dek : Dek) (w : World) {α : Type} (r : Except BootstrapFailure α) (w' : World) : Prop where
  opens : Opens h dek w w'
  database : ∀ a, r = .ok a → w'.profile.files .database = true
  succeeds : ¬ h.failures → w.profile.Openable dek → ∃ a, r = .ok a

theorem Opened.failed {α : Type} {w w' : World} {x : BootstrapFailure} (ho : Opens h dek w w') (hf : h.failures) :
    Opened h dek w (.error x : Except BootstrapFailure α) w' :=
  ⟨ho, by rintro a ⟨⟩, fun hn => absurd hf hn⟩

theorem wp_connection {c : Call} (hc : c.OfConnection dek) {α : Type} {read : Reply c → Except BootstrapFailure α}
    {Q : Except BootstrapFailure α → World → Prop} {w₀ w : World} (hI : ∀ w', Opens h dek w₀ w' → I w') (hw : Opens h dek w₀ w)
    (hQ : ∀ r w', Opens h dek w₀ w' → w.profile.Answers h c r w'.profile → Q (read r) w') :
    (keeps (perform h) I).wpA (ask c read) Q w :=
  ⟨hI w hw, fun r w' hp => hQ r w' (hw.trans (opens_call hc hp)) hp.1⟩

@[simp] theorem unreadable_ok {α : Type} (a : α) : unreadable (.ok a) = .ok a := rfl

/-- The part of a connection that finds out whether the key is right. -/
theorem verify_spec {w₀ w : World} (hI : ∀ w', Opens h dek w₀ w' → I w') (hw : Opens h dek w₀ w)
    (hdb : w.profile.files .database = true) :
    (keeps (perform h) I).wpA (do ask (.readSchema dek) unreadable; ask (.configure dek) unreadable) (Opened h dek w₀) w := by
  rw [Contract.wpA_bind]
  refine wp_connection (by exact rfl) hI hw fun r w₁ h₁ ha => ?_
  rcases ha with ⟨rfl, -, hp⟩ | ⟨rfl, hr, -⟩ | ⟨⟨e, rfl⟩, hf, -⟩
  · replace hdb : w₁.profile.files .database = true := by rw [hp]; exact hdb
    simp only [unreadable_ok, Contract.andThen_ok]
    refine wp_connection (by exact rfl) hI h₁ fun r w₂ h₂ ha => ?_
    rcases ha with ⟨hs, ⟨rfl, -⟩ | ⟨⟨e, rfl⟩, hf⟩⟩
    · exact ⟨h₂, fun _ _ => hs.database.trans hdb, fun _ _ => ⟨(), rfl⟩⟩
    · exact .failed h₂ hf
  · exact ⟨h₁, by rintro a ⟨⟩, fun hf ho => absurd ((Profile.openable_of_there hdb).1 (hw.openable hf ho)) hr⟩
  · exact .failed h₁ hf

theorem openKeyedConnection_spec {w₀ w : World} (hI : ∀ w', Opens h dek w₀ w' → I w') (hw : Opens h dek w₀ w) :
    (keeps (perform h) I).wpA (openKeyedConnection dek) (Opened h dek w₀) w := by
  unfold openKeyedConnection
  simp only [Contract.wpA_bind]
  refine wp_connection (by exact trivial) hI hw fun r w₁ h₁ ha => ?_
  rcases ha with ⟨rfl, hp⟩ | ⟨⟨e, rfl⟩, hf, -⟩
  swap
  · exact .failed h₁ hf
  have hdb : w₁.profile.files .database = true := by rw [hp]; exact Profile.opened_there _
  simp only [unreadable_ok, Contract.andThen_ok, Contract.wpA_bind]
  refine wp_connection (by exact rfl) hI h₁ fun r w₂ h₂ ha => ?_
  rcases ha with ⟨rfl, hp⟩ | ⟨⟨e, rfl⟩, hf, -⟩
  swap
  · exact .failed h₂ hf
  replace hdb : w₂.profile.files .database = true := by rw [hp]; exact hdb
  simp only [unreadable_ok, Contract.andThen_ok, Contract.wpA_bind]
  refine wp_connection (by exact trivial) hI h₂ fun r w₃ h₃ ha => ?_
  rcases ha with ⟨rfl, hp⟩ | ⟨⟨v, rfl⟩, hf, hp⟩ | ⟨⟨e, rfl⟩, hf, -⟩
  · simp only [unreadable_ok, Contract.andThen_ok, ne_eq, not_true_eq_false, if_false]
    exact verify_spec hI h₃ (by rw [hp]; exact hdb)
  · simp only [unreadable_ok, Contract.andThen_ok]
    split
    · exact .failed h₃ hf
    · exact verify_spec hI h₃ (by rw [hp]; exact hdb)
  · exact .failed h₃ hf

/-- An opened database has its schema, under its key. -/
theorem openDatabase_spec {w : World} (hI : ∀ w', Opens h dek w w' → I w') :
    (keeps (perform h) I).wpA (openDatabase dek)
      (fun r w' => Opened h dek w r w' ∧ (¬ h.failures → r = .ok () → w'.profile.content = .keyed dek true)) w := by
  unfold openDatabase
  refine Contract.wpA_bind_of (openKeyedConnection_spec hI (.refl w)) (fun _ w₁ ho => ?_) (fun x w₁ ho => ⟨ho, by rintro - ⟨⟩⟩)
  have h₁ := ho.opens
  have hdb := ho.database _ rfl
  rw [Contract.wpA_bind]
  refine wp_connection (by exact rfl) hI h₁ fun r w₂ h₂ ha => ?_
  rcases ha with ⟨hs, ⟨rfl, hcontent⟩ | ⟨⟨e, rfl⟩, hf⟩⟩
  swap
  · exact ⟨.failed h₂ hf, fun hn => absurd hf hn⟩
  replace hdb := hs.database.trans hdb
  simp only [unreadable_ok, Contract.andThen_ok]
  refine wp_connection (by exact trivial) hI h₂ fun r w₃ h₃ ha => ?_
  exact ⟨⟨h₃, fun _ _ => ha.1.database.trans hdb, fun _ _ => ⟨(), rfl⟩⟩, fun _ _ => ha.2.trans hcontent⟩

theorem runtimeVersions_spec {w : World} (hI : ∀ w', Opens h dek w w' → I w') :
    (keeps (perform h) I).wpA (runtimeVersions dek) (Opened h dek w) w := by
  unfold runtimeVersions
  refine Contract.wpA_bind_of (openKeyedConnection_spec hI (.refl w)) (fun _ w₁ ho => ?_) fun x w₁ ho => ?_
  swap
  · exact ⟨ho.opens, by rintro a ⟨⟩, fun hf hp => by obtain ⟨_, ⟨⟩⟩ := ho.succeeds hf hp⟩
  have h₁ := ho.opens
  have hdb := ho.database _ rfl
  simp only [Contract.wpA_bind]
  refine wp_connection (by exact trivial) hI h₁ fun r w₂ h₂ ha => ?_
  have done (v : String × String) (hp : w₂.profile = w₁.profile) : (keeps (perform h) I).wpA (do close; pure v) (Opened h dek w) w₂ := by
    rw [Contract.wpA_bind]
    refine wp_connection (by exact trivial) hI h₂ fun r w₃ h₃ ha => ?_
    exact ⟨h₃, fun _ _ => ha.1.database.trans (by rw [hp]; exact hdb), fun _ _ => ⟨_, rfl⟩⟩
  rcases ha with ⟨rfl, hp⟩ | ⟨⟨v, rfl⟩, hf, hp⟩ | ⟨⟨e, rfl⟩, hf, -⟩
  · exact done _ hp
  · exact done _ hp
  · exact .failed h₂ hf

/-! ## Files -/

/-- What deleting a database, or changing its key, leaves alone. -/
structure Clears (w w' : World) : Prop where
  createMarker : w'.profile.files .createMarker = w.profile.files .createMarker
  resetMarker : w'.profile.files .resetMarker = w.profile.files .resetMarker
  files : ∀ f, w.profile.files f = false → w'.profile.files f = false
  events : ∃ es, w'.events = w.events ++ es ∧ ∀ e ∈ es, e.IsLoss

theorem Clears.refl (w : World) : Clears w w := ⟨rfl, rfl, fun _ => id, [], by simp, by simp⟩

theorem Clears.trans {w₁ w₂ w₃ : World} (h₁ : Clears w₁ w₂) (h₂ : Clears w₂ w₃) : Clears w₁ w₃ where
  createMarker := h₂.createMarker.trans h₁.createMarker
  resetMarker := h₂.resetMarker.trans h₁.resetMarker
  files f := h₂.files f ∘ h₁.files f
  events := by
    obtain ⟨es, he, hl⟩ := h₁.events
    obtain ⟨es', he', hl'⟩ := h₂.events
    refine ⟨es ++ es', by rw [he', he, List.append_assoc], fun e hm => ?_⟩
    exact (List.mem_append.1 hm).elim (hl e) (hl' e)

theorem Call.losses_isLoss {c : Call} {p p' : Profile} {e : Event} (he : e ∈ c.losses p p') : e.IsLoss := by
  cases c <;> simp only [Call.losses, List.not_mem_nil] at he <;> split at he <;> simp_all [Event.IsLoss]

/-- A file is as it was, or gone. -/
theorem removeFile_spec {w : World} {f : ProfileFile} (hw : I w) :
    (keeps (perform h) I).wpA (removeFile f) (fun r w' =>
      (w'.profile = w.profile ∨ w'.profile = w.profile.setFile f false) ∧
        w'.events = w.events ++ (Call.removeFile f).losses w.profile w'.profile ∧
        (∀ b, r = .ok b → w'.profile.files f = false) ∧ (¬ h.failures → ∃ b, r = .ok b)) w := by
  refine wp_ask.2 ⟨hw, fun r w' hp => ?_⟩
  rcases hp.1 with ⟨rfl, -, ha⟩ | ⟨rfl, hf, ha⟩ | ⟨rfl, -, hf, ha⟩
  · exact ⟨.inr ha, hp.2, fun _ _ => by simp [ha, Profile.setFile], fun _ => ⟨_, rfl⟩⟩
  · exact ⟨.inl ha, hp.2, fun _ _ => by rw [ha]; exact hf, fun _ => ⟨_, rfl⟩⟩
  · exact ⟨ha, hp.2, by rintro b ⟨⟩, fun hn => absurd hf hn⟩

theorem Clears.of_removed {w w' : World} {f : ProfileFile} (hf : f ∈ artifacts)
    (hp : w'.profile = w.profile ∨ w'.profile = w.profile.setFile f false)
    (he : w'.events = w.events ++ (Call.removeFile f).losses w.profile w'.profile) : Clears w w' := by
  refine ⟨?_, ?_, fun g => ?_, _, he, fun e => Call.losses_isLoss⟩
  · rcases hp with hp | hp <;> rw [hp]
    exact Function.update_of_ne (by rintro rfl; simp [artifacts] at hf) _ _
  · rcases hp with hp | hp <;> rw [hp]
    exact Function.update_of_ne (by rintro rfl; simp [artifacts] at hf) _ _
  · rcases hp with hp | hp <;> rw [hp]
    · exact id
    · intro hg
      by_cases hfg : g = f
      · simp [Profile.setFile, hfg]
      · simpa [Profile.setFile, hfg] using hg

theorem removeAll_spec {w₀ w : World} (hI : ∀ w', Clears w₀ w' → I w') (hw : Clears w₀ w) {files : List ProfileFile}
    (hf : ∀ f ∈ files, f ∈ artifacts) :
    (keeps (perform h) I).wpA (removeAll files) (fun r w' =>
      Clears w₀ w' ∧ (r = .ok () → ∀ f, f ∈ files ∨ w.profile.files f = false → w'.profile.files f = false) ∧
        (¬ h.failures → r = .ok ())) w := by
  induction files generalizing w with
  | nil => exact ⟨hw, fun _ f hm => by simpa using hm, fun _ => rfl⟩
  | cons f rest ih =>
    refine Contract.wpA_bind_of (removeFile_spec (hI w hw)) (fun b w₁ ⟨hp, he, hgone, _⟩ => ?_) fun x w₁ ⟨hp, he, _, hok⟩ => ?_
    · have hc := Clears.of_removed (hf f List.mem_cons_self) hp he
      refine Contract.wpA_mono _ (fun r w' ⟨hw', hnone, hok⟩ => ⟨hw', fun hr g hg => ?_, hok⟩)
        (ih (hw.trans hc) fun g hg => hf g (List.mem_cons_of_mem _ hg))
      refine hnone hr g ?_
      rcases hg with hg | hg
      · rcases List.mem_cons.1 hg with rfl | hg
        · exact .inr (hgone b rfl)
        · exact .inl hg
      · exact .inr (hc.files g hg)
    · exact ⟨hw.trans (.of_removed (hf f List.mem_cons_self) hp he), by rintro ⟨⟩,
        fun hn => by obtain ⟨b, ⟨⟩⟩ := hok hn⟩

theorem deleteDatabaseArtifacts_spec {w : World} (hI : ∀ w', Clears w w' → I w') :
    (keeps (perform h) I).wpA deleteDatabaseArtifacts (fun r w' =>
      Clears w w' ∧ (r = .ok () → ∀ f ∈ artifacts, w'.profile.files f = false) ∧ (¬ h.failures → r = .ok ())) w :=
  Contract.wpA_mono _ (fun _ _ ⟨hc, hnone, hok⟩ => ⟨hc, fun hr f hf => hnone hr f (.inl hf), hok⟩)
    (removeAll_spec hI (.refl w) fun _ hf => hf)

/-! ## The key store -/

/-- What a change of the key ends with. -/
def Rekeyed (h : Hazards) (slot : Option Dek) (w : World) (r : Except BootstrapFailure Unit) (w' : World) : Prop :=
  (Clears w w' ∧ w'.profile.files = w.profile.files) ∧ (r = .ok () → w'.profile.slot = slot) ∧ (¬ h.failures → r = .ok ())

theorem rekeyed {c : Call} {slot : Option Dek} {w w' : World} {r : Except DekStoreError Unit}
    (ha : (r = .ok () ∧ w'.profile = { w.profile with slot := slot }) ∨
      Fails h w.profile { w.profile with slot := slot } r w'.profile)
    (he : w'.events = w.events ++ c.losses w.profile w'.profile) : Rekeyed h slot w (r.mapError mapStoreError) w' := by
  have hfiles : w'.profile.files = w.profile.files := by
    rcases ha with ⟨-, hp⟩ | ⟨-, -, hp | hp⟩ <;> rw [hp]
  refine ⟨⟨⟨by rw [hfiles], by rw [hfiles], fun f => by rw [hfiles]; exact id, _, he, fun e => Call.losses_isLoss⟩, hfiles⟩, ?_⟩
  rcases ha with ⟨rfl, hp⟩ | ⟨⟨e, rfl⟩, hf, -⟩
  · exact ⟨fun _ => by rw [hp], fun _ => rfl⟩
  · exact ⟨by rintro ⟨⟩, fun hn => absurd hf hn⟩

theorem deleteDek_spec {w : World} (hw : I w) :
    (keeps (perform h) I).wpA (ask .deleteDek (Except.mapError mapStoreError)) (Rekeyed h none w) w :=
  wp_ask.2 ⟨hw, fun _ _ hp => rekeyed hp.1 hp.2⟩

theorem storeDek_spec {w : World} (hw : I w) :
    (keeps (perform h) I).wpA (storeDek dek) (Rekeyed h (some dek) w) w :=
  wp_ask.2 ⟨hw, fun _ _ hp => rekeyed hp.1 hp.2⟩

/-! ## Markers -/

/-- At most this marker has changed, and only to `there`. -/
structure Marks (f : ProfileFile) (there : Bool) (w w' : World) : Prop where
  profile : w'.profile = w.profile ∨ w'.profile = w.profile.setFile f there
  events : w'.events = w.events

theorem Marks.refl (f : ProfileFile) (there : Bool) (w : World) : Marks f there w w := ⟨.inl rfl, rfl⟩

theorem Marks.still {f : ProfileFile} {there : Bool} {w w₁ w₂ : World} (hw : Marks f there w w₁)
    (hp : w₂.profile = w₁.profile) (he : w₂.events = w₁.events) : Marks f there w w₂ := by
  refine ⟨?_, he.trans hw.events⟩
  rw [hp]
  exact hw.profile

theorem Marks.slot {f : ProfileFile} {there : Bool} {w w' : World} (hw : Marks f there w w') :
    w'.profile.slot = w.profile.slot := by
  rcases hw.profile with hp | hp <;> rw [hp]
  rfl

theorem Marks.content {f : ProfileFile} {there : Bool} {w w' : World} (hw : Marks f there w w') :
    w'.profile.content = w.profile.content := by
  rcases hw.profile with hp | hp <;> rw [hp]
  rfl

theorem Marks.files {f : ProfileFile} {there : Bool} {w w' : World} (hw : Marks f there w w') {g : ProfileFile} (hg : g ≠ f) :
    w'.profile.files g = w.profile.files g := by
  rcases hw.profile with hp | hp <;> rw [hp]
  exact Function.update_of_ne hg _ _

/-- A call that changes nothing. -/
def Call.IsStill : Call → Prop
  | .probe _ => True
  | .markerLength _ => True
  | .writeMarker _ => True
  | .syncMarker _ => True
  | .syncParent => True
  | .loadDek => True
  | .reached _ => True
  | .generate => True
  | _ => False

theorem Call.IsStill.same {c : Call} (hc : c.IsStill) {w w' : World} {r : Reply c} (hp : perform h w c r w') : w' = w := by
  obtain ⟨ha, he⟩ := hp
  have same (hp : w'.profile = w.profile) (he : w'.events = w.events) : w' = w := by cases w; cases w'; simp_all
  cases c with
  | probe f => exact same ha.1 (by simpa [Call.losses] using he)
  | markerLength _ | writeMarker _ | syncMarker _ | syncParent | loadDek | reached _ | generate =>
    rcases ha with ⟨-, hp⟩ | ⟨-, -, hp | hp⟩ <;> exact same hp (by simpa [Call.losses] using he)
  | _ => exact hc.elim

/-- A call that changes nothing answers, or fails. -/
theorem wp_still {c : Call} (hc : c.IsStill) {α : Type} {read : Reply c → Except BootstrapFailure α}
    {Q : Except BootstrapFailure α → World → Prop} {w : World} (hw : I w)
    (hQ : ∀ r, w.profile.Answers h c r w.profile → Q (read r) w) : (keeps (perform h) I).wpA (ask c read) Q w :=
  ⟨hw, fun r w' hp => by
    obtain rfl := hc.same hp
    exact hQ r hp.1⟩

@[simp] theorem unavailable_ok {α : Type} (a : α) : unavailable (.ok a) = .ok a := rfl

theorem syncParent_spec {w : World} (hw : I w) :
    (keeps (perform h) I).wpA syncParent (fun r w' => w' = w ∧ (¬ h.failures → r = .ok ())) w := by
  refine wp_still (by exact trivial) hw fun r ha => ?_
  rcases ha with ⟨rfl, -⟩ | ⟨-, hf, -⟩
  · exact ⟨rfl, fun _ => rfl⟩
  · exact ⟨rfl, fun hn => absurd hf hn⟩

/-- What a change of a marker ends with. -/
def Marked (h : Hazards) (f : ProfileFile) (there : Bool) (w : World) (r : Except BootstrapFailure Unit) (w' : World) : Prop :=
  Marks f there w w' ∧ (r = .ok () → w'.profile.files f = there) ∧ (¬ h.failures → r = .ok ())

theorem Marked.failed {f : ProfileFile} {there : Bool} {w w' : World} {x : BootstrapFailure} (hw : Marks f there w w')
    (hf : h.failures) : Marked h f there w (.error x) w' := ⟨hw, by rintro ⟨⟩, fun hn => absurd hf hn⟩

theorem syncMarker_spec {f : ProfileFile} {there : Bool} {w₀ w : World} (hw : Marks f there w₀ w) (hI : I w)
    (hf : w.profile.files f = there) :
    (keeps (perform h) I).wpA (do ask (.syncMarker f) unavailable; syncParent) (Marked h f there w₀) w := by
  rw [Contract.wpA_bind]
  refine wp_still (by exact trivial) hI fun r ha => ?_
  rcases ha with ⟨rfl, -⟩ | ⟨⟨e, rfl⟩, hfail, -⟩
  · simp only [unavailable_ok, Contract.andThen_ok]
    refine Contract.wpA_mono _ ?_ (syncParent_spec hI)
    rintro r w' ⟨hw', hok⟩
    subst hw'
    exact ⟨hw, fun _ => hf, hok⟩
  · exact .failed hw hfail

theorem createDurable_spec {f : ProfileFile} {w : World} (hI : ∀ w', Marks f true w w' → I w') :
    (keeps (perform h) I).wpA (createDurable f) (Marked h f true w) w := by
  unfold createDurable
  rw [Contract.wpA_bind]
  refine wp_ask.2 ⟨hI w (.refl f true w), fun r w₁ hcall => ?_⟩
  have he : w₁.events = w.events := by simpa [Call.losses] using hcall.2
  rcases hcall.1 with ⟨rfl, hp⟩ | ⟨⟨e, rfl⟩, hfail, hp⟩
  swap
  · exact .failed ⟨hp, he⟩ hfail
  have h₁ : Marks f true w w₁ := ⟨.inr hp, he⟩
  have hthere : w₁.profile.files f = true := by simp [hp, Profile.setFile]
  simp only [unavailable_ok, Contract.andThen_ok, Contract.wpA_bind]
  refine wp_still (by exact trivial) (hI _ h₁) fun r ha => ?_
  rcases ha with ⟨⟨n, rfl⟩, -⟩ | ⟨⟨e, rfl⟩, hfail, -⟩
  swap
  · exact .failed h₁ hfail
  simp only [unavailable_ok, Contract.andThen_ok]
  split
  · rw [Contract.wpA_bind]
    refine wp_still (by exact trivial) (hI _ h₁) fun r ha => ?_
    rcases ha with ⟨rfl, -⟩ | ⟨⟨e, rfl⟩, hfail, -⟩
    · exact syncMarker_spec h₁ (hI _ h₁) hthere
    · exact .failed h₁ hfail
  · exact syncMarker_spec h₁ (hI _ h₁) hthere

theorem removeDurable_spec {f : ProfileFile} {w : World} (hf : f ∉ artifacts) (hI : ∀ w', Marks f false w w' → I w') :
    (keeps (perform h) I).wpA (removeDurable f) (Marked h f false w) w := by
  unfold removeDurable
  have marks {w' : World} (hp : w'.profile = w.profile ∨ w'.profile = w.profile.setFile f false)
      (he : w'.events = w.events ++ (Call.removeFile f).losses w.profile w'.profile) : Marks f false w w' :=
    ⟨hp, by simpa [Call.losses, hf] using he⟩
  refine Contract.wpA_bind_of (removeFile_spec (hI w (.refl f false w))) (fun b w₁ ⟨hp, he, hgone, _⟩ => ?_)
    fun x w₁ ⟨hp, he, _, hok⟩ => ?_
  · have h₁ := marks hp he
    cases b with
    | false => exact ⟨h₁, fun _ => hgone _ rfl, fun _ => rfl⟩
    | true =>
      refine Contract.wpA_mono _ (fun r w' ⟨hw', hok⟩ => ?_) (syncParent_spec (hI w₁ h₁))
      subst hw'
      exact ⟨h₁, fun _ => hgone _ rfl, hok⟩
  · exact ⟨marks hp he, by rintro ⟨⟩, fun hn => by obtain ⟨b, ⟨⟩⟩ := hok hn⟩

/-! ## Calls that change nothing -/

theorem loadDek_spec {w : World} (hw : I w) :
    (keeps (perform h) I).wpA loadDek (fun r w' => w' = w ∧ (∀ l, r = .ok l → l = w.profile.lookup) ∧
      (¬ h.failures → r = .ok w.profile.lookup)) w := by
  refine wp_still (by exact trivial) hw fun r ha => ⟨rfl, ?_⟩
  rcases ha with ⟨rfl, -⟩ | ⟨⟨e, rfl⟩, hf, -⟩
  · exact ⟨fun l hl => (Except.ok.inj hl).symm, fun _ => rfl⟩
  · exact ⟨by rintro l ⟨⟩, fun hn => absurd hf hn⟩

theorem generate_spec {w : World} (hw : I w) :
    (keeps (perform h) I).wpA generate (fun r w' => w' = w ∧ (¬ h.failures → ∃ dek, r = .ok dek)) w := by
  refine wp_still (by exact trivial) hw fun r ha => ⟨rfl, ?_⟩
  rcases ha with ⟨⟨dek, rfl⟩, -⟩ | ⟨⟨e, rfl⟩, hf, -⟩
  · exact fun _ => ⟨dek, rfl⟩
  · exact fun hn => absurd hf hn

/-- A hook of a reset does nothing to the profile. -/
def IsHook (h : Hazards) (hook : ResetPhase → Startup Unit) : Prop :=
  ∀ (I : World → Prop) (phase : ResetPhase) (w : World), I w →
    (keeps (perform h) I).wpA (hook phase) (fun r w' => w' = w ∧ (¬ h.failures → r = .ok ())) w

theorem noHook_isHook : IsHook h noHook := fun _ _ _ _ => ⟨rfl, fun _ => rfl⟩

theorem callHook_isHook : IsHook h callHook := by
  intro I phase w hw
  refine wp_still (by exact trivial) hw fun r ha => ⟨rfl, ?_⟩
  rcases ha with ⟨rfl, -⟩ | ⟨-, hf, -⟩
  · exact fun _ => rfl
  · exact fun hn => absurd hf hn


theorem probe_spec {f : ProfileFile} {w : World} (hw : I w) :
    (keeps (perform h) I).wpA (probe f) (fun r w' => w' = w ∧ ∃ found, r = .ok found ∧
      (found = true → w.profile.files f = true) ∧ (¬ h.blindProbes → found = w.profile.files f)) w := by
  refine wp_still (by exact trivial) hw fun found ha => ⟨rfl, found, rfl, ha.2.1, fun hn => ?_⟩
  cases found with
  | true => exact (ha.2.1 rfl).symm
  | false =>
    cases hf : w.profile.files f with
    | false => rfl
    | true => exact absurd (ha.2.2 rfl hf) hn

theorem anyExists_spec {files : List ProfileFile} {w : World} (hw : I w) :
    (keeps (perform h) I).wpA (anyExists files) (fun r w' => w' = w ∧ ∃ found, r = .ok found ∧
      (found = true → ∃ f ∈ files, w.profile.files f = true) ∧ (¬ h.blindProbes → found = files.any w.profile.files)) w := by
  induction files with
  | nil => exact ⟨rfl, false, rfl, by simp, fun _ => rfl⟩
  | cons f rest ih =>
    unfold anyExists
    refine Contract.wpA_bind_of (probe_spec hw) (fun found w₁ ⟨hw₁, b, hb, hthere, hsees⟩ => ?_)
      fun x w₁ ⟨_, b, hb, _⟩ => by cases hb
    subst hw₁
    cases hb
    cases found with
    | true => exact ⟨rfl, true, rfl, fun _ => ⟨f, List.mem_cons_self, hthere rfl⟩, fun hn => by simp [← hsees hn]⟩
    | false =>
      refine Contract.wpA_mono _ (fun r w' ⟨hw', b, hb, hany, hall⟩ => ⟨hw', b, hb, fun ht => ?_, fun hn => ?_⟩) ih
      · obtain ⟨g, hg, hthere⟩ := hany ht
        exact ⟨g, List.mem_cons_of_mem _ hg, hthere⟩
      · rw [hall hn, List.any_cons, ← hsees hn, Bool.false_or]

theorem hasOrphanSidecar_spec {w : World} (hw : I w) :
    (keeps (perform h) I).wpA hasOrphanSidecar (fun r w' => w' = w ∧ ∃ found, r = .ok found ∧
      (¬ h.blindProbes → found = (!w.profile.files .database && artifacts.tail.any w.profile.files))) w := by
  unfold hasOrphanSidecar
  refine Contract.wpA_bind_of (probe_spec hw) (fun found w₁ ⟨hw₁, b, hb, _, hsees⟩ => ?_) fun x w₁ ⟨_, b, hb, _⟩ => by cases hb
  subst hw₁
  cases hb
  cases found with
  | true => exact ⟨rfl, false, rfl, fun hn => by simp [← hsees hn]⟩
  | false =>
    exact Contract.wpA_mono _ (fun r w' ⟨hw', b, hb, _, hall⟩ => ⟨hw', b, hb, fun hn => by rw [hall hn, ← hsees hn]; simp⟩)
      (anyExists_spec hw)

end Boxplot.Bootstrap
