import Boxplot.Bootstrap.Profile
/-!
# Starting on a profile

`src-tauri/src/bootstrap/bootstrap.rs`, `markers.rs` and `reset.rs`: a start
opens the cache, creates it, or takes up a creation or a reset that was cut off.
A world is a profile with what has happened to it: starts and authorised resets
follow each other, each may crash anywhere, and between them an engine may use
the database.
-/

namespace Boxplot.Bootstrap

open Lib

abbrev Startup (α : Type) : Type := Async Call Reply BootstrapFailure α

/-- A call, and what its reply is taken for. -/
def ask {α : Type} (c : Call) (read : Reply c → Except BootstrapFailure α) : Startup α := .await c fun r => .pure (read r)

def probe (file : ProfileFile) : Startup Bool := ask (.probe file) .ok

/-- `fs::remove_file`: whether there was such a file. -/
def removeFile (file : ProfileFile) : Startup Bool :=
  ask (.removeFile file) fun
    | .ok () => .ok true
    | .error .notFound => .ok false
    | .error .other => .error .localDataUnavailable

/-- An error of the file system. -/
def unavailable {α : Type} : Except Unit α → Except BootstrapFailure α := Except.mapError fun _ => .localDataUnavailable

/-! ## Markers -/

def syncParent : Startup Unit := ask .syncParent unavailable

def createDurable (file : ProfileFile) : Startup Unit := do
  ask (.openMarker file) unavailable
  let length ← ask (.markerLength file) unavailable
  if length = 0 then ask (.writeMarker file) unavailable
  ask (.syncMarker file) unavailable
  syncParent

def removeDurable (file : ProfileFile) : Startup Unit := do
  if ← removeFile file then syncParent

/-! ## Files -/

def anyExists : List ProfileFile → Startup Bool
  | [] => pure false
  | file :: rest => do if ← probe file then pure true else anyExists rest

def anyDatabaseArtifact : Startup Bool := anyExists artifacts

def hasOrphanSidecar : Startup Bool := do
  if ← probe .database then pure false else anyExists artifacts.tail

def removeAll : List ProfileFile → Startup Unit
  | [] => pure ()
  | file :: rest => do
    let _ ← removeFile file
    removeAll rest

def deleteDatabaseArtifacts : Startup Unit := removeAll artifacts

/-! ## The key store -/

def mapStoreError : DekStoreError → BootstrapFailure
  | .unavailable => .secureStoreUnavailable
  | .corrupt => .secureStoreCorrupt
  | .invalidStoredDek => .invalidStoredDek
  | .configuration => .secureStoreConfiguration

def loadDek : Startup DekLookup := ask .loadDek (Except.mapError mapStoreError)

def storeDek (dek : Dek) : Startup Unit := ask (.storeDek dek) (Except.mapError mapStoreError)

/-- `OsDekGenerator`. -/
def generate : Startup Dek := ask .generate (Except.mapError fun _ => .unexpected)

/-! ## The database -/

/-- A step of a connection: whatever its error, the database is unreadable. -/
def unreadable {α : Type} : Except Unit α → Except BootstrapFailure α := Except.mapError fun _ => .databaseUnreadable

def queryRuntime : Startup (String × String) := ask .runtimeVersions unreadable

/-- The connection is dropped. -/
def close : Startup Unit := ask .close .ok

def openKeyedConnection (dek : Dek) : Startup Unit := do
  ask .openConnection unreadable
  ask (.keyConnection dek) unreadable
  if (← queryRuntime) ≠ expectedRuntime then throw .databaseUnreadable
  ask (.readSchema dek) unreadable
  ask (.configure dek) unreadable

/-- `PersistentLocalEngine::open_with_dek`. -/
def openDatabase (dek : Dek) : Startup Unit := do
  openKeyedConnection dek
  ask (.migrate dek) unreadable
  close

def runtimeVersions (dek : Dek) : Startup (String × String) := do
  openKeyedConnection dek
  let versions ← queryRuntime
  close
  pure versions

/-! ## Resets -/

/-- `NoopResetHook`. -/
def noHook (_ : ResetPhase) : Startup Unit := pure ()

/-- A hook of a caller. -/
def callHook (phase : ResetPhase) : Startup Unit := ask (.reached phase) id

def resumeReset (hook : ResetPhase → Startup Unit) : Startup Unit := do
  deleteDatabaseArtifacts
  hook .databaseDeleted
  ask .deleteDek (Except.mapError mapStoreError)
  hook .credentialDeleted
  let dek ← generate
  hook .dekGenerated
  storeDek dek
  hook .dekStored
  openDatabase dek
  hook .databaseCreated
  let _ ← runtimeVersions dek
  hook .databaseVerified
  removeDurable .resetMarker
  hook .markerRemoved

def authorizedReset : Startup Unit := do
  createDurable .resetMarker
  callHook .markerWritten
  callHook .engineDrained
  resumeReset callHook

/-! ## The start -/

def recoverIncompleteCreation : Startup Unit := do
  deleteDatabaseArtifacts
  let dek ← match ← loadDek with
    | .absent => do
      let value ← generate
      storeDek value
      pure value
    | .present value => pure value
  openDatabase dek
  removeDurable .createMarker

def createNewDatabase (dek : Dek) : Startup Unit := do
  createDurable .createMarker
  openDatabase dek
  removeDurable .createMarker

def bootstrapLocalCache : Startup Unit := do
  if ← probe .resetMarker then resumeReset noHook
  else if ← probe .createMarker then recoverIncompleteCreation
  else if ← hasOrphanSidecar then throw .databaseUnreadable
  else do
    let databaseExists ← anyDatabaseArtifact
    match ← loadDek with
    | .absent =>
      if databaseExists then throw .keyLost
      else do
        let dek ← generate
        storeDek dek
        createNewDatabase dek
    | .present dek => if databaseExists then openDatabase dek else createNewDatabase dek

/-! ## Worlds -/

inductive Event
  | authorized
  | succeeded
  | deletedFile (file : ProfileFile)
  | deletedKey
  deriving DecidableEq, Repr

structure World where
  profile : Profile
  events : List Event

/-- Part of a database or its key is gone. -/
def Event.IsLoss : Event → Prop
  | .deletedFile _ => True
  | .deletedKey => True
  | _ => False

namespace World

def note (w : World) (e : Event) : World := { w with events := w.events ++ [e] }

/-- A run that ends well leaves an engine ready. -/
def settle (w : World) : Option (Except BootstrapFailure Unit) → World
  | some (.ok _) => w.note .succeeded
  | _ => w

end World

/-- Nothing is there yet, and nothing has happened. -/
def firstRun : World := ⟨.empty, []⟩

/-- What a call deletes of a database and its key. -/
def Call.losses (p p' : Profile) : Call → List Event
  | .removeFile f => if f ∈ artifacts ∧ p.files f ∧ !p'.files f then [.deletedFile f] else []
  | .storeDek _ => if p.slot ≠ none ∧ p'.slot ≠ p.slot then [.deletedKey] else []
  | .deleteDek => if p.slot ≠ none ∧ p'.slot ≠ p.slot then [.deletedKey] else []
  | _ => []

def perform (h : Hazards) (w : World) (c : Call) (r : Reply c) (w' : World) : Prop :=
  w.profile.Answers h c r w'.profile ∧ w'.events = w.events ++ c.losses w.profile w'.profile

/-- A start, a reset, or an engine at work. -/
inductive Step (h : Hazards) : World → World → Prop
  | bootstrap {w w' o} : Exec (perform h) bootstrapLocalCache.run w o w' → Step h w (w'.settle o)
  | reset {w w' o} : (w.profile.files .createMarker = true → h.hastyResets) →
      Exec (perform h) authorizedReset.run (w.note .authorized) o w' → Step h w (w'.settle o)
  | use {w p} : w.profile.Stirs p → p.content = w.profile.content → Step h w { w with profile := p }

abbrev Runs (h : Hazards) : World → World → Prop := Relation.ReflTransGen (Step h)

end Boxplot.Bootstrap
