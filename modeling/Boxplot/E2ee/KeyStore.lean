import Boxplot.E2ee.Service
import Boxplot.Lib.Sessions
/-!
# The key store of the host

`OsE2eeKeyStore` of `src-tauri/src/e2ee/key_store.rs` over a keyring. Secrets and
the index of their slots are entries of their own, written one after the other.
-/

namespace Boxplot.E2ee

open Lib

/-! ## The keyring -/

/-- `keyring_core::Error`. -/
inductive KeyringError
  | noEntry | badEncoding | badDataFormat | other
  deriving DecidableEq, Repr

def classifyError : KeyringError → E2eeError
  | .badEncoding | .badDataFormat => .unexpected
  | _ => .unavailable

/-- The lock of the store, and the calls of `keyring_core::Entry`. -/
inductive KeyringCall
  | lock
  | build (slot : String)
  | getSecret (slot : String)
  | setSecret (slot : String) (value : List UInt8)
  | deleteCredential (slot : String)
  deriving DecidableEq, Repr

namespace KeyringCall

/-- A poisoned lock answers with an error. -/
abbrev Reply : KeyringCall → Type
  | .lock => Except Unit Unit
  | .build _ => Except KeyringError Unit
  | .getSecret _ => Except KeyringError (List UInt8)
  | .setSecret _ _ => Except KeyringError Unit
  | .deleteCredential _ => Except KeyringError Unit

end KeyringCall

/-- The secret in a slot. -/
abbrev Keyring := String → Option (List UInt8)

/-- Any call may fail, and then does nothing. -/
def Keyring.Answers (w : Keyring) : (e : KeyringCall) → e.Reply → Keyring → Prop
  | .lock, _, w' => w' = w
  | .build _, _, w' => w' = w
  | .getSecret slot, .ok value, w' => w slot = some value ∧ w' = w
  | .getSecret slot, .error .noEntry, w' => w slot = none ∧ w' = w
  | .getSecret _, .error _, w' => w' = w
  | .setSecret slot value, .ok _, w' => w' = Function.update w slot (some value)
  | .setSecret _ _, .error _, w' => w' = w
  | .deleteCredential slot, .ok _, w' => w' = Function.update w slot none
  | .deleteCredential slot, .error .noEntry, w' => w slot = none ∧ w' = w
  | .deleteCredential _, .error _, w' => w' = w

/-! ## The store -/

abbrev Store (α : Type) := Async KeyringCall KeyringCall.Reply E2eeError α

abbrev Store.call (e : KeyringCall) : Store e.Reply := Async.call e

inductive StoreOutcome
  | stored | alreadyPresent
  deriving DecidableEq, Repr

def indexSlot : String := "index-v1"

def privateSlot (localId : String) : String := "private-v1/" ++ encodeBytes (bytes localId)

def peerSlot (localId peer : String) : String := "peer-v1/" ++ encodeBytes (bytes localId) ++ "/" ++ encodeBytes (bytes peer)

def lock : Store Unit := do
  match ← Store.call .lock with
  | .ok _ => pure ()
  | .error _ => throw .unavailable

def entry (slot : String) : Store Unit := do
  match ← Store.call (.build slot) with
  | .ok _ => pure ()
  | .error error => throw (classifyError error)

def setSecret (slot : String) (value : List UInt8) : Store Unit := do
  match ← Store.call (.setSecret slot value) with
  | .ok _ => pure ()
  | .error error => throw (classifyError error)

def loadSlot (slot : String) : Store (Option (List UInt8)) := do
  entry slot
  match ← Store.call (.getSecret slot) with
  | .ok value => pure (some value)
  | .error .noEntry => pure none
  | .error error => throw (classifyError error)

variable (json : SerdeJson)

/-- The slots of an index as it is stored. -/
def slotsOf : Option (List UInt8) → Result (List String)
  | some value => okOr .unexpected ((json.fromSlice value).bind fun v => Reader.array Reader.string (some v))
  | none => .ok []

def indexOf (slots : List String) : List UInt8 := json.toVec (.vec .str slots)

def rememberSlot (slot : String) : Store Unit := do
  let slots ← Async.lift (slotsOf json (← loadSlot indexSlot))
  if slot ∈ slots then pure ()
  else
    entry indexSlot
    setSecret indexSlot (indexOf json (slots ++ [slot]))

def storeIfAbsent (slot : String) (value : List UInt8) : Store StoreOutcome := do
  match ← loadSlot slot with
  | some existing => if existing = value then pure .alreadyPresent else throw .keyMismatch
  | none =>
    entry slot
    setSecret slot value
    rememberSlot json slot
    pure .stored

/-- A key as it is stored, if it is one. -/
def keyOf (invalid : E2eeError) : Option (List UInt8) → Result (Option Key)
  | some value => if h : value.length = 32 then .ok (some ⟨value, h⟩) else .error invalid
  | none => .ok none

def loadPrivateKey (localId : String) : Store (Option Key) := do
  lock
  Async.lift (keyOf .keyUnavailable (← loadSlot (privateSlot localId)))

def storePrivateKeyIfAbsent (localId : String) (value : Key) : Store StoreOutcome := do
  lock
  storeIfAbsent json (privateSlot localId) value.1

def loadPeerPublicKey (localId peer : String) : Store (Option Key) := do
  lock
  Async.lift (keyOf .invalidPublicKey (← loadSlot (peerSlot localId peer)))

def storePeerPublicKeyIfAbsent (localId peer : String) (value : Key) : Store StoreOutcome := do
  lock
  storeIfAbsent json (peerSlot localId peer) value.1

def deleteSlot (slot : String) : Store Unit := do
  entry slot
  match ← Store.call (.deleteCredential slot) with
  | .ok _ => pure ()
  | .error .noEntry => pure ()
  | .error error => throw (classifyError error)

/-- The listed slots go first, and the index last. -/
def reset : Store Unit := do
  lock
  let slots ← Async.lift (slotsOf json (← loadSlot indexSlot))
  (slots ++ [indexSlot]).forM deleteSlot

/-! ## Operations -/

inductive Operation
  | loadPrivateKey (localId : String)
  | storePrivateKeyIfAbsent (localId : String) (value : Key)
  | loadPeerPublicKey (localId peer : String)
  | storePeerPublicKeyIfAbsent (localId peer : String) (value : Key)
  | reset
  deriving DecidableEq

inductive Answer
  | loaded (value : Option Key)
  | stored (outcome : StoreOutcome)
  | reset
  deriving DecidableEq

def Operation.run : Operation → Prog KeyringCall KeyringCall.Reply (Result Answer)
  | .loadPrivateKey localId => (do return .loaded (← E2ee.loadPrivateKey localId) : Store Answer).run
  | .storePrivateKeyIfAbsent localId value => (do return .stored (← E2ee.storePrivateKeyIfAbsent json localId value) : Store Answer).run
  | .loadPeerPublicKey localId peer => (do return .loaded (← E2ee.loadPeerPublicKey localId peer) : Store Answer).run
  | .storePeerPublicKeyIfAbsent localId peer value =>
    (do return .stored (← E2ee.storePeerPublicKeyIfAbsent json localId peer value) : Store Answer).run
  | .reset => (do E2ee.reset json; return .reset : Store Answer).run

end Boxplot.E2ee
