import Boxplot.Lib.Base64
import Boxplot.Lib.Serde
/-!
# Sealing and opening

`src-tauri/src/e2ee/types.rs` and `crypto.rs`. The box of libsodium and the
text layer of `serde_json` are parameters; base64 and the shape of the payload
are not.
-/

namespace Boxplot.E2ee

open Lib

/-! ## Types -/

/-- `[u8; n]`. -/
abbrev Fixed (n : Nat) := { bytes : List UInt8 // bytes.length = n }

abbrev Key := Fixed 32
abbrev Nonce := Fixed 24

inductive E2eeError
  | keyUnavailable | peerKeyUnavailable | keyMismatch | invalidPublicKey | invalidEnvelope | metadataMismatch
  | authenticationFailed | unavailable | unexpected
  deriving DecidableEq, Repr

abbrev Result (α : Type) := Except E2eeError α

def envelopeVersion : UInt8 := 1
def envelopeAlgorithm : String := "boxplot-crypto-box-v1"

structure E2eeEnvelope where
  version : UInt8
  algorithm : String
  sender : String
  recipient : String
  senderPublicKey : String
  recipientPublicKey : String
  nonce : String
  ciphertext : String
  deriving DecidableEq, Repr

structure DecryptedPayload where
  version : UInt8
  sender : String
  recipient : String
  subject : String
  text : String
  html : Option String
  deriving DecidableEq, Repr

/-! ## What is not in the repository -/

/-- `libsodium_rs`: `ensure_init`, `scalarmult_base`, the conversions of keys, and `crypto_box`. -/
structure Sodium where
  ensureInit : Bool
  scalarmultBase : Key → Option Key
  publicKeyFromBytes : Key → Bool
  secretKeyFromBytes : Key → Bool
  /-- Of a message, a nonce, the recipient's public and the sender's private key. -/
  «seal» : List UInt8 → Nonce → Key → Key → Option (List UInt8)
  /-- Of a ciphertext, a nonce, the sender's public and the recipient's private key. -/
  «open» : List UInt8 → Nonce → Key → Key → Option (List UInt8)

/-- `serde_json`: the text of a value, and the value of a text. -/
structure SerdeJson where
  toVec : JsValue → List UInt8
  fromSlice : List UInt8 → Option JsValue

/-! ## The payload as JSON -/

def DecryptedPayload.serialize (v : DecryptedPayload) : JsValue :=
  serializeStruct .camelCase
    [field "version" (.nat v.version.toNat), field "sender" (.str v.sender), field "recipient" (.str v.recipient),
      field "subject" (.str v.subject), field "text" (.str v.text), field "html" (.option .str v.html)]

/-- `serde_json::from_value`, unknown fields denied. -/
def DecryptedPayload.deserialize (v : JsValue) : Option DecryptedPayload := do
  let get ← deserializeStruct .camelCase true ["version", "sender", "recipient", "subject", "text", "html"] v
  let version ← Reader.uint 256 UInt8.ofNat (get "version")
  let sender ← Reader.string (get "sender")
  let recipient ← Reader.string (get "recipient")
  let subject ← Reader.string (get "subject")
  let text ← Reader.string (get "text")
  let html ← Reader.optional .string (get "html")
  some { version, sender, recipient, subject, text, html }

/-- The object has six fields, and all of these. -/
def hasPayloadFields : JsValue → Bool
  | .obj fields =>
    fields.length = 6 &&
      ["version", "sender", "recipient", "subject", "text", "html"].all fun key => (fields.lookup key).isSome
  | _ => false

/-! ## Keys -/

def encodeBytes (bytes : List UInt8) : String := String.ofList (urlSafeNoPad.encode bytes)

def decodeFixed (n : Nat) (value : String) : Result (Fixed n) :=
  match urlSafeNoPad.decodeExact value.toList with
  | none => .error .invalidEnvelope
  | some bytes => if h : bytes.length = n then .ok ⟨bytes, h⟩ else .error .invalidEnvelope

def encodeKey (value : Key) : String := encodeBytes value.1

def decodePublicKey (value : String) : Result Key := (decodeFixed 32 value).mapError fun _ => .invalidPublicKey

variable (sodium : Sodium) (json : SerdeJson)

def publicFromPrivate (privateKey : Key) : Result Key :=
  if sodium.ensureInit then
    match sodium.scalarmultBase privateKey with
    | none => .error .keyUnavailable
    | some publicKey => .ok publicKey
  else .error .unexpected

/-! ## The box -/

def encrypt (payload : DecryptedPayload) (senderPrivate senderPublic recipientPublic : Key) (nonce : Nonce) :
    Result E2eeEnvelope :=
  if sodium.ensureInit then
    if sodium.publicKeyFromBytes recipientPublic then
      if sodium.secretKeyFromBytes senderPrivate then
        match sodium.seal (json.toVec payload.serialize) nonce recipientPublic senderPrivate with
        | none => .error .unexpected
        | some ciphertext => .ok
          { version := envelopeVersion, algorithm := envelopeAlgorithm, sender := payload.sender,
            recipient := payload.recipient, senderPublicKey := encodeKey senderPublic,
            recipientPublicKey := encodeKey recipientPublic, nonce := encodeBytes nonce.1,
            ciphertext := encodeBytes ciphertext }
      else .error .keyUnavailable
    else .error .invalidPublicKey
  else .error .unexpected

/-- What `decrypt` makes of an opened box. -/
def payloadOf (plaintext : List UInt8) : Result DecryptedPayload :=
  match json.fromSlice plaintext with
  | none => .error .invalidEnvelope
  | some value =>
    if hasPayloadFields value then
      match DecryptedPayload.deserialize value with
      | none => .error .invalidEnvelope
      | some payload => .ok payload
    else .error .invalidEnvelope

def decrypt (envelope : E2eeEnvelope) (recipientPrivate trustedSenderPublic : Key) : Result DecryptedPayload :=
  if sodium.ensureInit then
    if envelope.version ≠ envelopeVersion ∨ envelope.algorithm ≠ envelopeAlgorithm then .error .invalidEnvelope
    else do
      let nonce ← decodeFixed 24 envelope.nonce
      match urlSafeNoPad.decodeExact envelope.ciphertext.toList with
      | none => .error .invalidEnvelope
      | some ciphertext =>
        if sodium.publicKeyFromBytes trustedSenderPublic then
          if sodium.secretKeyFromBytes recipientPrivate then
            match sodium.open ciphertext nonce trustedSenderPublic recipientPrivate with
            | none => .error .authenticationFailed
            | some plaintext => payloadOf json plaintext
          else .error .keyUnavailable
        else .error .invalidPublicKey
  else .error .unexpected

end Boxplot.E2ee
