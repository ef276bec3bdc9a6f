import Boxplot.Lib.Base64
import Boxplot.Net.Dto
/-!
# The outgoing message

`build_message` of `src-tauri/src/net/smtp.rs` with its checks and encodings.
The `Date` header's text comes from the clock and the date library, and is an
argument.
-/

namespace Boxplot.Net

open Lib

/-! ## Checks -/

/-- `Result<T, NativeMailErrorDto>`. -/
abbrev NetResult (α : Type) := Except NativeMailErrorDto α

def validateHeader (value : String) : NetResult Unit :=
  if value.toList.any (fun c => c = '\r' || c = '\n' || c.toNat = 0) then .error (.rejected "smtp_header_invalid") else .ok ()

def validateAddress (address : NativeAddressDto) : NetResult Unit := do
  validateHeader address.email
  if address.email.isEmpty || !address.email.toList.contains '@' then .error (.rejected "smtp_address_invalid")
  else match address.name with
    | none => .ok ()
    | some name => validateHeader name

def validateAddresses : List NativeAddressDto → NetResult Unit
  | [] => .ok ()
  | address :: rest => do
    validateAddress address
    validateAddresses rest

/-! ## Headers -/

def isAscii (value : String) : Bool := value.toList.all (fun c => c.toNat < 128)

def encodeHeader (value : String) : String :=
  if isAscii value then value else "=?UTF-8?B?" ++ String.ofList (standard.encode (bytes value)) ++ "?="

/-- A quoted string: backslashes and quotes are escaped. -/
def quoted (value : String) : String :=
  "\"" ++ String.ofList (value.toList.flatMap fun c => if c = '\\' then ['\\', '\\'] else if c = '"' then ['\\', '"'] else [c]) ++ "\""

def encodeDisplayName (value : String) : String := if isAscii value then quoted value else encodeHeader value

def formatAddress (value : NativeAddressDto) : NetResult String := do
  validateAddress value
  match value.name with
  | none => .ok value.email
  | some name => .ok (if name.isEmpty then value.email else encodeDisplayName name ++ " <" ++ value.email ++ ">")

def formatAddresses (values : List NativeAddressDto) : NetResult String := do
  let formatted ← values.mapM formatAddress
  .ok (String.intercalate ", " formatted)

/-! ## Body -/

/-- Lines of at most `n` characters. -/
def chunks {α : Type} (n : Nat) : Nat → List α → List (List α)
  | 0, _ => []
  | _, [] => []
  | fuel + 1, l => l.take n :: chunks n fuel (l.drop n)

def encodeBody (value : List UInt8) : String :=
  let encoded := standard.encode value
  String.intercalate "\r\n" ((chunks 76 encoded.length encoded).map String.ofList)

structure BuiltMessage where
  message : List UInt8
  messageId : String
  deriving DecidableEq

def messageIdOf (encodedKey : String) : String := "<boxplot." ++ encodedKey ++ "@boxplot.invalid>"

/-- The headers that describe the body, and the body. -/
def buildBody (encodedKey : String) : NativeSubmissionBodyDto → List String × String
  | .plain text none =>
    (["Content-Type: text/plain; charset=utf-8", "Content-Transfer-Encoding: base64"], encodeBody (bytes text))
  | .plain text (some html) =>
    let boundary := "boxplot-" ++ encodedKey
    (["Content-Type: multipart/alternative; boundary=\"" ++ boundary ++ "\""],
      "--" ++ boundary ++ "\r\nContent-Type: text/plain; charset=utf-8\r\nContent-Transfer-Encoding: base64\r\n\r\n" ++
        encodeBody (bytes text) ++ "\r\n--" ++ boundary ++
        "\r\nContent-Type: text/html; charset=utf-8\r\nContent-Transfer-Encoding: base64\r\n\r\n" ++
        encodeBody (bytes html) ++ "\r\n--" ++ boundary ++ "--")
  | .boxplotE2ee payload =>
    (["Content-Type: application/vnd.boxplot.e2ee+json", "Content-Transfer-Encoding: base64"], encodeBody (bytes payload))

def buildMessage (date : String) (request : NativeSmtpSubmitRequest) : NetResult BuiltMessage := do
  validateAddress request.from
  validateAddresses (request.to ++ request.cc ++ request.bcc ++ request.replyTo)
  validateHeader request.subject
  let encodedKey := String.ofList (urlSafeNoPad.encode (bytes request.idempotencyKey))
  let «from» ← formatAddress request.from
  let «to» ← formatAddresses request.to
  let cc ← if request.cc.isEmpty then .ok [] else (formatAddresses request.cc).map fun v => ["Cc: " ++ v]
  let replyTo ← if request.replyTo.isEmpty then .ok [] else (formatAddresses request.replyTo).map fun v => ["Reply-To: " ++ v]
  let (bodyHeaders, body) := buildBody encodedKey request.body
  let headers := ["From: " ++ «from», "To: " ++ «to»] ++ cc ++ replyTo ++
    ["Subject: " ++ encodeHeader request.subject, "Date: " ++ date, "Message-ID: " ++ messageIdOf encodedKey,
      "MIME-Version: 1.0"] ++ bodyHeaders
  .ok ⟨bytes (String.intercalate "\r\n" headers ++ "\r\n\r\n" ++ body), messageIdOf encodedKey⟩

/-- A dot after a line break is doubled. -/
def dotStuff : List UInt8 → List UInt8
  | 13 :: 10 :: 46 :: rest => 13 :: 10 :: 46 :: 46 :: dotStuff rest
  | b :: rest => b :: dotStuff rest
  | [] => []

end Boxplot.Net
