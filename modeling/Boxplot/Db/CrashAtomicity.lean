import Boxplot.Db.Migrations
/-!
# Migrations that are cut off

A migration that a crash cut off runs to its end the next time, unless the
crash fell inside the first or the third script: what they have created is then
in the way, and stays there.
-/

namespace Boxplot.Db

open Lib Lib.Sql

/-! ## Databases between crashes -/

/-- The scripts that lead to a version. -/
def scripts : Nat → List Statement
  | 0 => []
  | 1 => initial
  | 2 => initial ++ persist01
  | _ => initial ++ persist01 ++ fts5

/-- The schema at each version. -/
def schema (version : Nat) : List Object := (scripts version).foldl Statement.objectsAfter []

/-- A database to migrate: empty, at version 1 without mutations, or at version 2. -/
def Starts (db : Sql.Db) : Prop :=
  (db.version = 0 ∧ db.objects = schema 0) ∨ (db.version = 1 ∧ db.objects = schema 1 ∧ db.rows "pending_mutations" = []) ∨
    (db.version = 2 ∧ db.objects = schema 2 ∧ Keyed db)

/-- A run of `migrate`, to its end or to a crash. -/
def Runs (db db' : Sql.Db) : Prop := ∃ o, Exec perform migrate.run db o db'

/-- The next run of `migrate` succeeds, with the schema of an uninterrupted run and every row of version 2. -/
def Recovers (db₀ db : Sql.Db) : Prop :=
  ∃ db' db₁, Exec perform migrate.run db (some (.ok ())) db' ∧ Exec perform migrate.run db₀ (some (.ok ())) db₁ ∧
    db'.version = latestVersion ∧ db'.objects = db₁.objects ∧
    (db₀.version = 2 → ∀ t, HasTable db₀.objects t → db'.rows t = db₀.rows t)

/-- The first or the third script has begun and is not finished. -/
def Interrupted (db : Sql.Db) : Prop :=
  (db.version = 0 ∧ HasTable db.objects "accounts") ∨ (db.version = 2 ∧ HasTable db.objects "emails_fts")

/-- The database is at a version, with what was committed at version 2. -/
structure Whole (db₀ db : Sql.Db) : Prop where
  version : db.version ≤ latestVersion
  objects : db.objects = schema db.version
  pending : db.version = 1 → db.rows "pending_mutations" = []
  keyed : db.version = 2 → Keyed db
  kept : db₀.version = 2 → 2 ≤ db.version ∧ ∀ t, t ≠ "emails_fts" → db.rows t = db₀.rows t

def Stage (db₀ db : Sql.Db) : Prop := Whole db₀ db ∨ Interrupted db

theorem Starts.whole {db : Sql.Db} (h : Starts db) : Whole db db := by
  rcases h with ⟨hv, ho⟩ | ⟨hv, ho, hp⟩ | ⟨hv, ho, hk⟩
  · exact ⟨by rw [hv]; decide, by rw [hv, ho], by omega, by omega, fun h => by omega⟩
  · exact ⟨by rw [hv]; decide, by rw [hv, ho], fun _ => hp, by omega, fun h => by omega⟩
  · exact ⟨by rw [hv]; decide, by rw [hv, ho], by omega, fun _ => hk, fun _ => ⟨by omega, fun _ _ => rfl⟩⟩

/-! ## The scripts -/

theorem ask_spec {α : Type} {I : Sql.Db → Prop} {c : Call} {read : Reply c → Except MigrationError α} {db : Sql.Db}
    {Q : Except MigrationError α → Sql.Db → Prop} (hI : I db) (hQ : Q (read (answer db c).1) (answer db c).2) :
    (keeps perform I).wpA (ask c read) Q db :=
  ⟨hI, fun r db' hp => by
    obtain ⟨rfl, rfl⟩ := Prod.mk.inj hp
    exact hQ⟩

theorem executeBatch_spec {I : Sql.Db → Prop} {l : List Statement} {db db' : Sql.Db} (h : Through I l db db') :
    (keeps perform I).wpA (executeBatch l) (fun r w => r = .ok () ∧ w = db') db := by
  induction h with
  | nil _ => exact ⟨rfl, rfl⟩
  | @cons s rest db db' hI ha _ ih =>
    unfold executeBatch
    rw [Contract.wpA_bind]
    refine ask_spec hI ?_
    simp only [answer, Sql.Db.execute, if_pos ha]
    exact ih

theorem Interrupted.apply_addition {s : Statement} (hs : s.IsAddition = true) {db : Sql.Db} (h : Interrupted db) :
    Interrupted (s.apply db) :=
  h.imp (fun ⟨hv, ht⟩ => ⟨(version_apply hs).trans hv, hasTable_apply hs ht⟩)
    fun ⟨hv, ht⟩ => ⟨(version_apply hs).trans hv, hasTable_apply hs ht⟩

theorem initial_through {db₀ db : Sql.Db} (h : Whole db₀ db) (hv : db.version = 0) :
    ∃ db', Through (Stage db₀) initial db db' ∧ Whole db₀ db' ∧ db'.version = 1 := by
  have ho : db.objects = [] := by rw [h.objects, hv]; rfl
  have hend : Whole db₀ (db.after initial) := by
    have hversion : (db.after initial).version = 1 := by rw [Sql.Db.after_version]; rfl
    refine ⟨by rw [hversion]; decide, by rw [Sql.Db.after_objects, hversion, ho]; rfl, fun _ => ?_, by omega, fun h₀ => ?_⟩
    · rw [Sql.Db.after_rows]
      exact foldl_rowsAfter_nil (by decide) (.inr (by decide))
    · have := (h.kept h₀).1
      omega
  refine ⟨_, ?_, hend, by rw [Sql.Db.after_version]; rfl⟩
  refine Through.script (Q := Interrupted) (.inl h) (by rw [ho]; decide) (fitsAll_of_no_insert (by decide)) (.inl ⟨hv, ?_⟩)
    (fun s hs db hi => hi.apply_addition ?_) (fun _ => .inr) (.inl hend)
  · simp [HasTable, Statement.apply, Statement.objectsAfter, Object.isTable, ho]
  · revert s
    decide

/-- The second script empties every table of its schema. -/
theorem persist01_empties : ∀ o ∈ schema 2, o.isTrigger = false → some o.owner ∈ persist01.map Statement.target := by
  decide

theorem persist01_through {db₀ db : Sql.Db} (h : Whole db₀ db) (hv : db.version = 1) :
    ∃ db', db.runAll persist01 = some db' ∧ Whole db₀ db' ∧ db'.version = 2 := by
  have ho : db.objects = schema 1 := by rw [h.objects, hv]
  have hthrough : Through (fun _ => True) persist01 db (db.after persist01) :=
    .of_kept trivial (by rw [ho]; decide) (fitsAll_of_no_insert (by decide)) fun _ _ _ _ => trivial
  have hversion : (db.after persist01).version = 2 := by rw [Sql.Db.after_version]; rfl
  have hobjects : (db.after persist01).objects = schema 2 := by
    rw [Sql.Db.after_objects, ho]
    simp only [schema, scripts, List.foldl_append]
  refine ⟨_, hthrough.runAll, ⟨by rw [hversion]; decide, by rw [hversion]; exact hobjects, by omega, fun _ => ?_, fun h₀ => ?_⟩, hversion⟩
  · intro t o hmem htable
    obtain ⟨rfl, htrigger⟩ := Object.owner_of_isTable htable
    have hnil : (db.after persist01).rows o.owner = [] := by
      rw [Sql.Db.after_rows]
      exact foldl_rowsAfter_nil (by decide) (.inr (persist01_empties o (by rw [← hobjects]; exact hmem) htrigger))
    simp [hnil]
  · have := (h.kept h₀).1
    omega

/-! ## The backfill -/

/-- Rows that agree on a key are at most one. -/
theorem length_le_one {α : Type} {key : Row → α} {rows : List Row} {p : Row → Bool} {k : α} (hkey : (rows.map key).Nodup)
    (hp : ∀ r, p r = true → key r = k) : (rows.filter p).length ≤ 1 := by
  have hsub : ((rows.filter p).map key).Nodup := hkey.sublist (List.filter_sublist.map key)
  have hreplicate : (rows.filter p).map key = List.replicate (rows.filter p).length k :=
    List.eq_replicate_iff.2 ⟨List.length_map _, fun b hb => by
      obtain ⟨r, hr, rfl⟩ := List.mem_map.1 hb
      exact hp r (List.mem_filter.1 hr).2⟩
  rw [hreplicate] at hsub
  exact List.nodup_replicate.1 hsub

theorem bodiesOf_single {rows : Rows} (hkey : ((rows "email_bodies").map fun b =>
    ["account_key", "email_jmap_id"].map b.cell).Nodup) (e : Row) : ∃ b, bodiesOf rows e = [b] := by
  have hle := length_le_one (k := [e.cell "account_key", e.cell "jmap_id"])
    (p := fun b => (e.cell "account_key").eq (b.cell "account_key") && (e.cell "jmap_id").eq (b.cell "email_jmap_id")) hkey ?_
  · unfold bodiesOf
    generalize (rows "email_bodies").filter _ = bodies at hle ⊢
    match bodies, hle with
    | [], _ => exact ⟨none, rfl⟩
    | [b], _ => exact ⟨some b, rfl⟩
    | _ :: _ :: _, hle => simp at hle
  · intro b hb
    simp only [Value.eq, Bool.and_eq_true, decide_eq_true_eq] at hb
    simp [hb.1.2, hb.2.2]

/-- Each email goes into the index once, under its own row id. -/
theorem backfill_rowids {db : Sql.Db} (hk : Keyed db) (ho : db.objects = schema 2) :
    ((backfill db.rows).map (·.rowid)).Nodup := by
  obtain ⟨o, hmem, htable⟩ : ∃ o ∈ schema 2, o.isTable "emails" = true := by decide
  have hemails := (hk "emails" o (by rw [ho]; exact hmem) htable).1
  obtain ⟨o, hmem, htable, hkey⟩ : ∃ o ∈ schema 2, o.isTable "email_bodies" = true ∧
      o.primaryKey = ["account_key", "email_jmap_id"] := by decide
  have hbodies := (hk "email_bodies" o (by rw [ho]; exact hmem) htable).2 (by rw [hkey]; decide)
  rw [hkey] at hbodies
  suffices hmap : (backfill db.rows).map (·.rowid) = (db.rows "emails").map (·.rowid) by rwa [hmap]
  unfold backfill
  induction db.rows "emails" with
  | nil => rfl
  | cons e rest ih =>
    obtain ⟨b, hb⟩ := bodiesOf_single hbodies e
    simp only [List.flatMap_cons, hb, List.map_cons, List.map_nil, ih, List.singleton_append]
    rfl

theorem backfill_update (rows : Rows) (l : List Row) : backfill (Function.update rows "emails_fts" l) = backfill rows := by
  have hne : ∀ t, t ≠ "emails_fts" → Function.update rows "emails_fts" l t = rows t := fun t ht => Function.update_of_ne ht _ _
  unfold backfill bodiesOf
  rw [hne "emails" (by decide), hne "email_bodies" (by decide)]

theorem fts5_through {db₀ db : Sql.Db} (h : Whole db₀ db) (hv : db.version = 2) :
    ∃ db', Through (Stage db₀) fts5 db db' ∧ Whole db₀ db' ∧ db'.version = latestVersion := by
  have ho : db.objects = schema 2 := by rw [h.objects, hv]
  have hversion : (db.after fts5).version = 3 := by rw [Sql.Db.after_version]; rfl
  have hfits : FitsAll db.rows fts5Objects := by
    refine ⟨trivial, trivial, trivial, trivial, trivial, trivial, trivial, ?_, trivial⟩
    have hnodup := backfill_rowids (h.keyed hv) ho
    rw [← backfill_update db.rows []] at hnodup
    simpa [Statement.Fits, Statement.rowsAfter] using hnodup
  have hend : Whole db₀ (db.after fts5) := by
    refine ⟨by rw [hversion]; decide, ?_, by omega, by omega, fun h₀ => ⟨by omega, fun t ht => ?_⟩⟩
    · rw [Sql.Db.after_objects, hversion, ho]
      simp only [schema, scripts, List.foldl_append]
    · rw [Sql.Db.after_rows, foldl_rowsAfter_of_ne, (h.kept h₀).2 t ht]
      have htarget : ∀ s ∈ fts5, s.target = none ∨ s.target = some "emails_fts" := by decide
      intro s hs he
      rcases htarget s hs with h' | h' <;> rw [h'] at he <;> cases he
      exact ht rfl
  refine ⟨_, ?_, hend, hversion⟩
  refine Through.script (Q := Interrupted) (.inl h) (by rw [ho]; decide) hfits (.inr ⟨hv, ?_⟩)
    (fun s hs db hi => hi.apply_addition ?_) (fun _ => .inr) (.inl hend)
  · simp [HasTable, Statement.apply, Statement.objectsAfter, Object.isTable]
  · revert s
    decide

/-! ## The run -/

theorem userVersion_spec {I : Sql.Db → Prop} {db : Sql.Db} (hI : I db) {f : Nat → Migration Unit}
    {Q : Except MigrationError Unit → Sql.Db → Prop} (hf : (keeps perform I).wpA (f db.version) Q db) :
    (keeps perform I).wpA (userVersion >>= f) Q db := by
  rw [Contract.wpA_bind]
  exact ask_spec hI hf

/-- What a whole database is migrated to. -/
def Migrated (db₀ : Sql.Db) (r : Except MigrationError Unit) (db : Sql.Db) : Prop :=
  r = .ok () ∧ Whole db₀ db ∧ db.version = latestVersion

/-- The last third of `migrate`. -/
theorem toVersion3 {db₀ db : Sql.Db} (h : Whole db₀ db) (hv : 2 ≤ db.version) :
    (keeps perform (Stage db₀)).wpA (do
      let version ← userVersion
      if version = 2 then executeBatch fts5) (Migrated db₀) db := by
  refine userVersion_spec (.inl h) ?_
  split
  · rename_i hv
    obtain ⟨db', hthrough, hend⟩ := fts5_through h hv
    exact Contract.wpA_mono _ (fun _ _ ⟨hr, hw⟩ => ⟨hr, hw ▸ hend⟩) (executeBatch_spec hthrough)
  · have := h.version
    exact ⟨rfl, h, by unfold latestVersion at *; omega⟩

/-- The last two thirds. -/
theorem toVersion2 {db₀ db : Sql.Db} (h : Whole db₀ db) (hv : 1 ≤ db.version) :
    (keeps perform (Stage db₀)).wpA (do
      let version ← userVersion
      if version = 1 then do
        let legacyMutations ← ask (.countRows "pending_mutations") .ok
        if legacyMutations ≠ 0 then throw .legacyMutations
        ask (.transaction persist01) scriptError
      let version ← userVersion
      if version = 2 then executeBatch fts5) (Migrated db₀) db := by
  refine userVersion_spec (.inl h) ?_
  by_cases hv1 : db.version = 1
  · obtain ⟨db', hrun, hend, hv'⟩ := persist01_through h hv1
    simp only [if_pos hv1, Contract.wpA_bind]
    refine ask_spec (.inl h) ?_
    have hcount : ¬ (answer db (.countRows "pending_mutations")).1 ≠ 0 := by simp [answer, h.pending hv1]
    simp only [Contract.andThen_ok, if_neg hcount, Contract.wpA_bind]
    refine ask_spec (.inl h) ?_
    simp only [answer, Sql.Db.transaction, hrun]
    exact toVersion3 hend (by omega)
  · simp only [if_neg hv1]
    exact toVersion3 h (by omega)

theorem migrate_whole {db₀ db : Sql.Db} (h : Whole db₀ db) :
    (keeps perform (Stage db₀)).wpA migrate (Migrated db₀) db := by
  unfold migrate
  refine userVersion_spec (.inl h) ?_
  rw [if_neg (by have := h.version; omega)]
  by_cases hv : db.version = 0
  · obtain ⟨db', hthrough, hend, hv'⟩ := initial_through h hv
    simp only [if_pos hv]
    refine Contract.wpA_bind_of (executeBatch_spec hthrough) (fun _ _ ⟨_, hw⟩ => ?_) fun _ _ ⟨hr, _⟩ => by cases hr
    subst hw
    exact toVersion2 hend (by omega)
  · simp only [if_neg hv]
    exact toVersion2 h (by omega)

/-- What is in the way of the first statement stays in its way. -/
theorem executeBatch_refused {I : Sql.Db → Prop} {s : Statement} {rest : List Statement} {db : Sql.Db} (hI : I db)
    (hs : ¬ s.Allowed db) : (keeps perform I).wpA (executeBatch (s :: rest)) (fun r db' => (∃ e, r = .error e) ∧ db' = db) db := by
  unfold executeBatch
  rw [Contract.wpA_bind]
  refine ask_spec hI ?_
  simp only [answer, Sql.Db.execute, if_neg hs]
  exact ⟨⟨_, rfl⟩, rfl⟩

theorem not_allowed_again {db : Sql.Db} {t : String} {columns primaryKey : List String} (h : HasTable db.objects t) :
    ¬ (Statement.createTable t columns primaryKey).Allowed db := by
  rintro ⟨hdefined, -⟩
  obtain ⟨o, ho, htable⟩ := List.any_eq_true.1 h
  cases o with
  | table name _ _ => exact hdefined _ ho rfl (of_decide_eq_true htable)
  | _ => cases htable

theorem migrate_interrupted {db₀ db : Sql.Db} (h : Interrupted db) :
    (keeps perform (Stage db₀)).wpA migrate (fun r db' => (∃ e, r = .error e) ∧ db' = db) db := by
  have hI : Stage db₀ db := .inr h
  unfold migrate
  refine userVersion_spec hI ?_
  rcases h with ⟨hv, ht⟩ | ⟨hv, ht⟩
  · rw [if_neg (by rw [hv]; decide)]
    simp only [if_pos hv]
    refine Contract.wpA_bind_of (executeBatch_refused hI (not_allowed_again ht)) (fun _ _ ⟨hr, _⟩ => ?_) fun _ _ hr => ?_
    · obtain ⟨e, he⟩ := hr
      cases he
    · exact hr
  · rw [if_neg (by rw [hv]; decide)]
    simp only [hv]
    refine userVersion_spec hI ?_
    simp only [hv]
    refine userVersion_spec hI ?_
    simp only [hv]
    exact executeBatch_refused hI (not_allowed_again ht)

/-! ## Runs -/

theorem Stage.run {db₀ db db' : Sql.Db} (h : Stage db₀ db) (hr : Runs db db') : Stage db₀ db' := by
  obtain ⟨o, he⟩ := hr
  rcases h with h | h
  · exact (Exec.sound he (.inl h) (migrate_whole h) fun _ _ hm => .inl hm.2.1).1
  · exact (Exec.sound he (.inr h) (migrate_interrupted h) fun _ _ ⟨_, hw⟩ => hw ▸ .inr h).1

theorem Stage.runs {db₀ db : Sql.Db} (h₀ : Starts db₀) (hr : Relation.ReflTransGen Runs db₀ db) : Stage db₀ db := by
  induction hr with
  | refl => exact .inl h₀.whole
  | tail _ hr ih => exact ih.run hr

/-- A whole database has a run of `migrate` that ends well. -/
theorem Whole.migrates {db₀ db : Sql.Db} (h : Whole db₀ db) :
    ∃ db', Exec perform migrate.run db (some (.ok ())) db' ∧ Whole db₀ db' ∧ db'.version = latestVersion := by
  have he : Exec perform migrate.run db _ _ :=
    Exec.of_play (fun db c r db' (ha : some (answer db c) = some (r, db')) => Option.some.inj ha) migrate.run db
  obtain ⟨r, hr⟩ := Prog.play_ends (fun db c => ⟨(answer db c).1, (answer db c).2, rfl⟩) migrate.run db
  rw [hr] at he
  obtain ⟨rfl, hwhole, hv⟩ := (Exec.sound he (.inl h) (migrate_whole h) fun _ _ hm => .inl hm.2.1).2 r rfl
  exact ⟨_, he, hwhole, hv⟩

/-- A database inside a script stays there. -/
theorem Interrupted.not_recovers {db₀ db : Sql.Db} (hi : Interrupted db) : ¬ Recovers db₀ db := by
  rintro ⟨db', _, he, -⟩
  obtain ⟨⟨e, h⟩, -⟩ := (Exec.sound he (.inr hi : Stage db₀ db) (migrate_interrupted hi) fun _ _ ⟨_, hw⟩ => hw ▸ .inr hi).2 _ rfl
  cases h

/-- After any crashes, the next run of `migrate` does what an uninterrupted one does, unless the database is inside
the first or the third script. -/
theorem migration_recovers_iff {db₀ db : Sql.Db} (h₀ : Starts db₀) (hr : Relation.ReflTransGen Runs db₀ db) :
    Recovers db₀ db ↔ ¬ Interrupted db := by
  refine ⟨fun h hi => hi.not_recovers h, fun hi => ?_⟩
  obtain ⟨db', he, hwhole, hv⟩ := ((Stage.runs h₀ hr).resolve_right hi).migrates
  obtain ⟨db₁, he₁, hwhole₁, hv₁⟩ := h₀.whole.migrates
  refine ⟨db', db₁, he, he₁, hv, by rw [hwhole.objects, hwhole₁.objects, hv, hv₁], fun hv₀ t ht => ?_⟩
  refine (hwhole.kept hv₀).2 t ?_
  rintro rfl
  rw [h₀.whole.objects, hv₀] at ht
  exact absurd ht (by decide)

/-! ### Runs that are computed -/

/-- The database where a run of `migrate` ends before the first of some calls. -/
def crashedBefore (stops : Call → Bool) (db : Sql.Db) : Sql.Db :=
  (migrate.run.play (fun db c => if stops c then none else some (answer db c)) db).2

theorem crashedBefore_runs (stops : Call → Bool) (db : Sql.Db) : Runs db (crashedBefore stops db) := by
  refine ⟨_, Exec.of_play (fun db c r db' ha => ?_) migrate.run db⟩
  split at ha
  · cases ha
  · exact Option.some.inj ha

def emptyDb : Sql.Db := ⟨[], fun _ => [], 0⟩

def sampleAccount : Row where
  rowid := 1
  cell
    | "account_key" => .text "a"
    | "service_key" => .text "https://jmap.example"
    | "jmap_account_id" => .text "u1"
    | _ => .null

def sampleSend : Row where
  rowid := 1
  cell
    | "account_key" => .text "a"
    | "mutation_id" => .text "m1"
    | "kind" => .text "send"
    | "created_at" => .text "2026-08-20T12:00:00Z"
    | "send_intent_json" => .text "intent"
    | "lifecycle_json" => .text "pending"
    | _ => .null

/-- A database at version 2 with a send that waits to be submitted. -/
def queuedDb : Sql.Db where
  objects := schema 2
  rows
    | "accounts" => [sampleAccount]
    | "pending_mutations" => [sampleSend]
    | _ => []
  version := 2

theorem emptyDb_starts : Starts emptyDb := .inl ⟨rfl, rfl⟩

theorem queuedDb_starts : Starts queuedDb := by
  refine .inr (.inr ⟨rfl, rfl, fun t o _ _ => ?_⟩)
  simp only [queuedDb]
  split <;> simp

/-- The run ends after the first script. -/
def beforeTransaction : Call → Bool
  | .transaction _ => true
  | _ => false

/-- The run ends after the first statement of the first, or of the third script. -/
def afterFirstStatement : Call → Bool
  | .execute (.createTable t _ _) => t = "mailboxes"
  | .execute (.createTrigger t _ _) => t = "emails_ai"
  | _ => false

theorem between_scripts_recovers :
    (crashedBefore beforeTransaction emptyDb).version = 1 ∧ Recovers emptyDb (crashedBefore beforeTransaction emptyDb) :=
  ⟨by decide, (migration_recovers_iff emptyDb_starts (.single (crashedBefore_runs _ _))).2 (by
    rintro (⟨hv, -⟩ | ⟨hv, -⟩) <;> exact absurd hv (by decide))⟩

/-- A crash after the first statement of a script locks the database, also one with a send in it. -/
theorem crash_locks_database :
    (Starts emptyDb ∧ ∃ db, Relation.ReflTransGen Runs emptyDb db ∧ ¬ Recovers emptyDb db) ∧ Starts queuedDb ∧
      ∃ db, Relation.ReflTransGen Runs queuedDb db ∧ queuedDb.rows "pending_mutations" ≠ [] ∧ ¬ Recovers queuedDb db := by
  refine ⟨⟨emptyDb_starts, _, .single (crashedBefore_runs afterFirstStatement _), Interrupted.not_recovers (.inl ⟨?_, ?_⟩)⟩,
    queuedDb_starts, _, .single (crashedBefore_runs afterFirstStatement _), by simp [queuedDb],
    Interrupted.not_recovers (.inr ⟨?_, ?_⟩)⟩ <;> decide

end Boxplot.Db
