import Boxplot.Bootstrap.Startup
/-!
# Runs that are computed

A function that answers for a profile where nothing fails. It stops where it is
told to, and what a probe finds is a parameter.
-/

namespace Boxplot.Bootstrap

open Lib

/-- The answer of a profile where nothing fails, up to a call that is not made, with `found` for what a probe finds. -/
def Profile.answer (found : ProfileFile → Bool → Bool) (stops : Call → Bool) (key : Dek) (p : Profile) (c : Call) :
    Option (Reply c × Profile) :=
  if stops c then none
  else match c with
    | .probe f => some (found f (p.files f), p)
    | .removeFile f => some (if p.files f then (.ok (), p.setFile f false) else (.error .notFound, p))
    | .openMarker f => some (.ok (), p.setFile f true)
    | .markerLength _ => some (.ok 0, p)
    | .writeMarker _ | .syncMarker _ | .syncParent | .reached _ | .keyConnection _ => some (.ok (), p)
    | .loadDek => some (.ok p.lookup, p)
    | .storeDek dek => some (.ok (), { p with slot := some dek })
    | .deleteDek => some (.ok (), { p with slot := none })
    | .generate => some (.ok key, p)
    | .openConnection => some (.ok (), p.opened)
    | .runtimeVersions => some (.ok expectedRuntime, p)
    | .readSchema dek =>
      some (match p.content with
        | .blank => .ok ()
        | .keyed k _ => if k = dek then .ok () else .error ()
        | .damaged => .error (), p)
    | .configure dek => some (.ok (), { p with content := .keyed dek (decide (p.content = .keyed dek true)) })
    | .migrate dek => some (.ok (), { p with content := .keyed dek true })
    | .close => some ((), p)

def World.answer (found : ProfileFile → Bool → Bool) (stops : Call → Bool) (key : Dek) (w : World) (c : Call) :
    Option (Reply c × World) :=
  (w.profile.answer found stops key c).map fun r => (r.1, ⟨r.2, w.events ++ c.losses w.profile r.2⟩)

theorem Profile.Stirs.of_files {p p' : Profile} (hf : p'.files = p.files) (hs : p'.slot = p.slot) : p.Stirs p' :=
  ⟨by rw [hf], by rw [hf], by rw [hf], hs, fun _ => hf⟩

theorem Profile.answers_of_answer {h : Hazards} {found : ProfileFile → Bool → Bool} {stops : Call → Bool} {key : Dek} {p p' : Profile}
    {c : Call} {r : Reply c} (hfound : ∀ f there, (found f there = true → there = true) ∧
      (found f there = false → there = true → h.blindProbes)) (ha : p.answer found stops key c = some (r, p')) :
    p.Answers h c r p' := by
  unfold Profile.answer at ha
  split at ha
  · cases ha
  · cases c with
    | probe f => obtain ⟨rfl, rfl⟩ := Prod.mk.inj (Option.some.inj ha); exact ⟨rfl, hfound f _⟩
    | removeFile f =>
      simp only [Option.some.injEq] at ha
      by_cases hp : p.files f = true
      · rw [if_pos hp] at ha
        obtain ⟨rfl, rfl⟩ := Prod.mk.inj ha
        exact .inl ⟨rfl, hp, rfl⟩
      · rw [if_neg hp] at ha
        obtain ⟨rfl, rfl⟩ := Prod.mk.inj ha
        exact .inr (.inl ⟨rfl, by simpa using hp, rfl⟩)
    | readSchema dek =>
      obtain ⟨rfl, rfl⟩ := Prod.mk.inj (Option.some.inj ha)
      cases hc : p.content with
      | blank => exact .inl ⟨rfl, .inl hc, rfl⟩
      | keyed k m =>
        by_cases hk : k = dek
        · exact .inl ⟨by simp [hk], .inr ⟨m, by rw [hc, hk]⟩, rfl⟩
        · exact .inr (.inl ⟨by simp [hk], by simp [Profile.Readable, hc, hk], rfl⟩)
      | damaged => exact .inr (.inl ⟨rfl, by simp [Profile.Readable, hc], rfl⟩)
    | configure dek =>
      obtain ⟨rfl, rfl⟩ := Prod.mk.inj (Option.some.inj ha)
      exact ⟨.of_files rfl rfl, .inl ⟨rfl, rfl⟩⟩
    | migrate dek =>
      obtain ⟨rfl, rfl⟩ := Prod.mk.inj (Option.some.inj ha)
      exact ⟨.of_files rfl rfl, .inl ⟨rfl, rfl⟩⟩
    | close =>
      obtain ⟨-, rfl⟩ := Prod.mk.inj (Option.some.inj ha)
      exact ⟨.of_files rfl rfl, rfl⟩
    | markerLength f => obtain ⟨rfl, rfl⟩ := Prod.mk.inj (Option.some.inj ha); exact .inl ⟨⟨0, rfl⟩, rfl⟩
    | generate => obtain ⟨rfl, rfl⟩ := Prod.mk.inj (Option.some.inj ha); exact .inl ⟨⟨key, rfl⟩, rfl⟩
    | _ => obtain ⟨rfl, rfl⟩ := Prod.mk.inj (Option.some.inj ha); exact .inl ⟨rfl, rfl⟩

theorem perform_of_answer {h : Hazards} {found : ProfileFile → Bool → Bool} {stops : Call → Bool} {key : Dek} {w w' : World}
    {c : Call} {r : Reply c} (hfound : ∀ f there, (found f there = true → there = true) ∧
      (found f there = false → there = true → h.blindProbes)) (ha : w.answer found stops key c = some (r, w')) :
    perform h w c r w' := by
  obtain ⟨a, hp, he⟩ := Option.map_eq_some_iff.1 ha
  obtain ⟨rfl, rfl⟩ := Prod.mk.inj he
  exact ⟨Profile.answers_of_answer hfound hp, rfl⟩

def neverStops (_ : Call) : Bool := false

/-- The process ends before it removes this marker. -/
def stopsBeforeRemoving (marker : ProfileFile) : Call → Bool
  | .removeFile f => f = marker
  | _ => false

def sampleKey : Dek := Vector.replicate 32 1

theorem World.answer_answers (found : ProfileFile → Bool → Bool) (key : Dek) (w : World) (c : Call) :
    ∃ r w', w.answer found neverStops key c = some (r, w') := by
  cases c <;> exact ⟨_, _, rfl⟩

/-- The world after a start. -/
def World.start (found : ProfileFile → Bool → Bool) (stops : Call → Bool) (key : Dek) (w : World) : World :=
  let ended := bootstrapLocalCache.run.play (World.answer found stops key) w
  ended.2.settle ended.1

/-- The world after an authorised reset. -/
def World.reset (found : ProfileFile → Bool → Bool) (stops : Call → Bool) (key : Dek) (w : World) : World :=
  let ended := authorizedReset.run.play (World.answer found stops key) (w.note .authorized)
  ended.2.settle ended.1

/-- What a working file system finds. -/
def sees (_ : ProfileFile) (there : Bool) : Bool := there

theorem sees_found {h : Hazards} (f : ProfileFile) (there : Bool) :
    (sees f there = true → there = true) ∧ (sees f there = false → there = true → h.blindProbes) :=
  ⟨id, fun hf ht => by rw [sees, ht] at hf; cases hf⟩

variable {h : Hazards} {found : ProfileFile → Bool → Bool}

/-- What is computed is a run. -/
theorem Exec.of_answer (hfound : ∀ f there, (found f there = true → there = true) ∧
    (found f there = false → there = true → h.blindProbes)) (stops : Call → Bool) (key : Dek) (p : Startup Unit) (w : World) :
    Exec (perform h) p.run w (p.run.play (World.answer found stops key) w).1 (p.run.play (World.answer found stops key) w).2 := by
  refine Exec.of_play ?_ p.run w
  exact fun _ _ _ _ ha => perform_of_answer hfound ha

theorem World.start_step (hfound : ∀ f there, (found f there = true → there = true) ∧
    (found f there = false → there = true → h.blindProbes)) (stops : Call → Bool) (key : Dek) (w : World) :
    Step h w (w.start found stops key) :=
  .bootstrap (Exec.of_answer hfound stops key bootstrapLocalCache w)

theorem World.reset_step (hfound : ∀ f there, (found f there = true → there = true) ∧
    (found f there = false → there = true → h.blindProbes)) (stops : Call → Bool) (key : Dek) {w : World}
    (hw : w.profile.files .createMarker = true → h.hastyResets) : Step h w (w.reset found stops key) :=
  .reset hw (Exec.of_answer hfound stops key authorizedReset _)

end Boxplot.Bootstrap
