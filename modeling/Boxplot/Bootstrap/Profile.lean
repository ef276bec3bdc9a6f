import Boxplot.Lib.Async
/-!
# The profile on disk

The files and the key a start of the application finds, and how the file
system, the key store and SQLite answer the calls of `src-tauri/src/bootstrap`.
Any call may fail, with or without its effect; a start may crash between any
two calls.
-/

namespace Boxplot.Bootstrap

open Lib

/-! ## Calls -/

inductive ProfileFile
  | database | wal | shm | journal | createMarker | resetMarker
  deriving DecidableEq, Repr

/-- `CachePaths::artifacts`. -/
def artifacts : List ProfileFile := [.database, .wal, .shm, .journal]

abbrev Dek := Vector UInt8 32

inductive DekLookup
  | absent
  | present (dek : Dek)
  deriving DecidableEq, Repr

inductive DekStoreError
  | unavailable | corrupt | invalidStoredDek | configuration
  deriving DecidableEq, Repr

inductive RemoveError
  | notFound | other
  deriving DecidableEq, Repr

inductive BootstrapFailure
  | localDataUnavailable | localCacheAlreadyInUse | secureStoreUnavailable | secureStoreCorrupt | secureStoreConfiguration
  | keyLost | invalidStoredDek | databaseUnreadable | unexpected
  | unsafeProductionIdentityInDevelopment | unsafeProductionIdentityInDebugBuild | invalidCacheFlavorConfiguration
  deriving DecidableEq, Repr

inductive ResetPhase
  | markerWritten | engineDrained | databaseDeleted | credentialDeleted | dekGenerated | dekStored
  | databaseCreated | databaseVerified | markerRemoved
  deriving DecidableEq, Repr

/-- What a start asks of its environment. The calls after `generate` are those of a database connection. -/
inductive Call
  | probe (file : ProfileFile)
  | removeFile (file : ProfileFile)
  | openMarker (file : ProfileFile)
  | markerLength (file : ProfileFile)
  | writeMarker (file : ProfileFile)
  | syncMarker (file : ProfileFile)
  | syncParent
  | loadDek
  | storeDek (dek : Dek)
  | deleteDek
  | reached (phase : ResetPhase)
  | generate
  | openConnection
  | keyConnection (dek : Dek)
  | runtimeVersions
  | readSchema (dek : Dek)
  | configure (dek : Dek)
  | migrate (dek : Dek)
  | close

abbrev Reply : Call → Type
  | .probe _ => Bool
  | .removeFile _ => Except RemoveError Unit
  | .markerLength _ => Except Unit Nat
  | .loadDek => Except DekStoreError DekLookup
  | .storeDek _ => Except DekStoreError Unit
  | .deleteDek => Except DekStoreError Unit
  | .reached _ => Except BootstrapFailure Unit
  | .generate => Except Unit Dek
  | .runtimeVersions => Except Unit (String × String)
  | .close => Unit
  | _ => Except Unit Unit

/-! ## The profile -/

/-- What the database file holds: nothing yet, pages under a key (with the whole schema or not), or no database. -/
inductive Content
  | blank
  | keyed (dek : Dek) (migrated : Bool)
  | damaged
  deriving DecidableEq, Repr

structure Profile where
  files : ProfileFile → Bool
  content : Content
  slot : Option Dek

namespace Profile

def empty : Profile := ⟨fun _ => false, .blank, none⟩

def setFile (p : Profile) (file : ProfileFile) (there : Bool) : Profile := { p with files := Function.update p.files file there }

def lookup (p : Profile) : DekLookup :=
  match p.slot with
  | none => .absent
  | some dek => .present dek

/-- A connection with this key can read the file. -/
def Readable (p : Profile) (dek : Dek) : Prop := p.content = .blank ∨ ∃ migrated, p.content = .keyed dek migrated

/-- A connection creates the file. A log or journal that was there before it belongs to another database. -/
def opened (p : Profile) : Profile :=
  if p.files .database then p
  else { p.setFile .database true with
    content := if p.files .wal || p.files .shm || p.files .journal then .damaged else .blank }

/-- SQLite keeps its log and journal as it needs them while the database is there. -/
structure Stirs (p p' : Profile) : Prop where
  database : p'.files .database = p.files .database
  createMarker : p'.files .createMarker = p.files .createMarker
  resetMarker : p'.files .resetMarker = p.files .resetMarker
  slot : p'.slot = p.slot
  sidecars : p.files .database = false → p'.files = p.files

end Profile

/-! ## Answers -/

/-- What may go wrong, a crash apart: a call fails, a probe misses a file that is there (`Path::exists` is false when
the file system cannot tell), a reset is authorised while a creation has left its marker. -/
structure Hazards where
  failures : Prop
  blindProbes : Prop
  hastyResets : Prop

def expectedRuntime : String × String := ("4.17.0 community", "3.53.3")

/-- A call that fails has had its effect or has not. -/
def Fails {ε α : Type} (h : Hazards) (before after : Profile) (r : Except ε α) (p' : Profile) : Prop :=
  (∃ e, r = .error e) ∧ h.failures ∧ (p' = before ∨ p' = after)

/-- The answer to a call and the profile after it. -/
def Profile.Answers (h : Hazards) (p : Profile) : (c : Call) → Reply c → Profile → Prop
  | .probe f, found, p' => p' = p ∧ (found = true → p.files f = true) ∧ (found = false → p.files f = true → h.blindProbes)
  | .removeFile f, r, p' =>
    (r = .ok () ∧ p.files f = true ∧ p' = p.setFile f false) ∨ (r = .error .notFound ∧ p.files f = false ∧ p' = p) ∨
      (r = .error .other ∧ Fails h p (p.setFile f false) r p')
  | .openMarker f, r, p' => (r = .ok () ∧ p' = p.setFile f true) ∨ Fails h p (p.setFile f true) r p'
  | .markerLength _, r, p' => ((∃ n, r = .ok n) ∧ p' = p) ∨ Fails h p p r p'
  | .writeMarker _, r, p' => (r = .ok () ∧ p' = p) ∨ Fails h p p r p'
  | .syncMarker _, r, p' => (r = .ok () ∧ p' = p) ∨ Fails h p p r p'
  | .syncParent, r, p' => (r = .ok () ∧ p' = p) ∨ Fails h p p r p'
  | .loadDek, r, p' => (r = .ok p.lookup ∧ p' = p) ∨ Fails h p p r p'
  | .storeDek dek, r, p' => (r = .ok () ∧ p' = { p with slot := some dek }) ∨ Fails h p { p with slot := some dek } r p'
  | .deleteDek, r, p' => (r = .ok () ∧ p' = { p with slot := none }) ∨ Fails h p { p with slot := none } r p'
  | .reached _, r, p' => (r = .ok () ∧ p' = p) ∨ Fails h p p r p'
  | .generate, r, p' => ((∃ dek, r = .ok dek) ∧ p' = p) ∨ Fails h p p r p'
  | .openConnection, r, p' => (r = .ok () ∧ p' = p.opened) ∨ Fails h p p.opened r p'
  | .keyConnection _, r, p' => (r = .ok () ∧ p' = p) ∨ Fails h p p r p'
  | .runtimeVersions, r, p' => (r = .ok expectedRuntime ∧ p' = p) ∨ ((∃ v, r = .ok v) ∧ h.failures ∧ p' = p) ∨ Fails h p p r p'
  | .readSchema dek, r, p' =>
    (r = .ok () ∧ p.Readable dek ∧ p' = p) ∨ (r = .error () ∧ ¬ p.Readable dek ∧ p' = p) ∨ Fails h p p r p'
  | .configure dek, r, p' =>
    p.Stirs p' ∧ ((r = .ok () ∧ p'.content = .keyed dek (decide (p.content = .keyed dek true))) ∨
      ((∃ e, r = .error e) ∧ h.failures))
  | .migrate dek, r, p' => p.Stirs p' ∧ ((r = .ok () ∧ p'.content = .keyed dek true) ∨ ((∃ e, r = .error e) ∧ h.failures))
  | .close, _, p' => p.Stirs p' ∧ p'.content = p.content

end Boxplot.Bootstrap
