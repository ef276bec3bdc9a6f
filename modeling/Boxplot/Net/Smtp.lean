import Boxplot.Lib.Conn
import Boxplot.Lib.State
import Boxplot.Net.Message
/-!
# Submitting over SMTP

`submit` and `submit_gmail` of `src-tauri/src/net/smtp.rs`, over a connection
whose server may send any bytes and whose writes may fail anywhere.
-/

namespace Boxplot.Net

open Lib

/-- Where opening a connection may fail. -/
inductive ConnectFailure
  | resolution | tcp | timeoutSetup | hostname | tlsSetup
  deriving DecidableEq, Repr

/-- The client's connection. `payloadBegun` records that the first byte of the message may be out. -/
structure SmtpConn where
  connect : Option ConnectFailure
  conn : Conn
  payloadBegun : Bool
  deriving DecidableEq, Repr

/-- A server, before anything is sent to it. -/
def SmtpConn.fresh (connect : Option ConnectFailure) (conn : Conn) : SmtpConn := ⟨connect, conn, false⟩

/-- A client operation: `Result<T, NativeMailErrorDto>` with the connection's new state. -/
abbrev Smtp (α : Type) := EStateM NativeMailErrorDto SmtpConn α

abbrev SmtpResult (α : Type) := EStateM.Result NativeMailErrorDto SmtpConn α

/-- A synchronous step that may fail. -/
def ofResult {α : Type} : NetResult α → Smtp α
  | .ok a => pure a
  | .error e => throw e

/-! ## The wire -/

def connectPlain : Smtp Unit := fun s =>
  match s.connect with
  | none => .ok () s
  | some .timeoutSetup => .error (.unavailable "mail_timeout_setup_failed") s
  | some _ => .error (.unavailable "mail_connect_failed") s

def connectTls : Smtp Unit := fun s =>
  match s.connect with
  | none => .ok () s
  | some .resolution => .error (.unavailable "gmail_resolution_failed") s
  | some .tcp => .error (.unavailable "gmail_tls_connect_failed") s
  | some .timeoutSetup => .error (.unavailable "mail_timeout_setup_failed") s
  | some .hostname => .error (.protocol "gmail_tls_hostname_invalid") s
  | some .tlsSetup => .error (.protocol "gmail_tls_setup_failed") s

/-- One `write_all`, failing with `e`. A flush writes nothing. -/
def write (bytes : List UInt8) (e : NativeMailErrorDto) : Smtp Unit := fun s =>
  match s.conn.write bytes with
  | (.ok _, conn) => .ok () { s with conn }
  | (.error _, conn) => .error e { s with conn }

def flush (e : NativeMailErrorDto) : Smtp Unit := write [] e

def writeSmtpCommand (text : String) (e : NativeMailErrorDto) : Smtp Unit := do
  write (bytes text) e
  write [13, 10] e
  flush e

/-! ## Replies -/

/-- `str::parse::<u16>` of three bytes: digits, perhaps after a plus sign. -/
def parseCode (text : List UInt8) : Option Nat :=
  let digits := match text with
    | 43 :: rest => rest
    | _ => text
  if digits.isEmpty || digits.any (fun b => b < 48 || 57 < b) then none
  else some (digits.foldl (fun n b => 10 * n + (b.toNat - 48)) 0)

/-- The first three bytes of a line, if they end at a character boundary, as a reply code. -/
def lineCode (line : List UInt8) : Option Nat :=
  if line.length < 3 || (line.drop 3).head?.any isContinuationByte then none else parseCode (line.take 3)

def isContinuation (line : List UInt8) : Bool := (line.drop 3).head? = some 45

def readFailed (ambiguous : Bool) : NativeMailErrorDto :=
  if ambiguous then .ambiguous "smtp_response_unknown" else .unavailable "smtp_read_failed"

def connectionClosed (ambiguous : Bool) : NativeMailErrorDto :=
  if ambiguous then .ambiguous "smtp_response_unknown" else .unavailable "smtp_connection_closed"

/-- The loop that both reply readers share: the code of the first line that is no continuation. -/
def replyCode (ambiguous : Bool) : Nat → Smtp Nat
  | 0 => fun s => .error (readFailed ambiguous) s
  | fuel + 1 => fun s =>
    match s.conn.readLine with
    | (.error _, conn) => .error (readFailed ambiguous) { s with conn }
    | (.ok [], conn) => .error (connectionClosed ambiguous) { s with conn }
    | (.ok (b :: bs), conn) =>
      match lineCode (b :: bs) with
      | none => .error (.protocol "smtp_response_invalid") { s with conn }
      | some code => if isContinuation (b :: bs) then replyCode ambiguous fuel { s with conn } else .ok code { s with conn }

/-- Every line uses up input, so the input bounds the loop. -/
def readReply (ambiguous : Bool) : Smtp Nat := fun s => replyCode ambiguous (s.conn.input.length + 1) s

def rejection (code : Nat) : NativeMailErrorDto :=
  if 400 ≤ code ∧ code < 500 then .transient "smtp_transient_rejection" else .rejected "smtp_rejected"

def expectCode (expected : Nat) (ambiguous : Bool) : Smtp Unit := do
  let code ← readReply ambiguous
  if code = expected then pure ()
  else throw (if ambiguous then .ambiguous "smtp_acceptance_unknown" else rejection code)

/-- `true` for a challenge. -/
def expectCodeOrChallenge (expected : Nat) : Smtp Bool := do
  let code ← readReply false
  if code = 334 then pure true
  else if code = expected then pure false
  else throw (rejection code)

def command (text : String) (expected : Nat) (ambiguous : Bool) : Smtp Unit := do
  writeSmtpCommand text (if ambiguous then .ambiguous "smtp_write_unknown" else .unavailable "smtp_write_failed")
  expectCode expected ambiguous

/-! ## Authentication -/

def authPlainCommand (username password : String) : String :=
  "AUTH PLAIN " ++ String.ofList (standard.encode (0 :: bytes username ++ 0 :: bytes password))

def xoauth2Command (username accessToken : String) : String :=
  "AUTH XOAUTH2 " ++ String.ofList (standard.encode
    (bytes ("user=" ++ username) ++ 1 :: bytes ("auth=Bearer " ++ accessToken) ++ [1, 1]))

def authenticateXoauth2 (text : String) : Smtp Unit := do
  writeSmtpCommand text (.unavailable "smtp_write_failed")
  let challenged ← expectCodeOrChallenge 235
  if challenged then do
    writeSmtpCommand "" (.unavailable "smtp_write_failed")
    expectCode 235 false

/-- A rejected authentication is an authentication failure. -/
def orAuth (x : Smtp Unit) : Smtp Unit :=
  tryCatch x fun e => throw (if e.code = some "smtp_rejected" then .auth else e)

/-! ## Submission -/

def maxMessageBytes : Nat := 1024 * 1024

/-- The recipients in order, each once. -/
def collectRecipients : List NativeAddressDto → List String → NetResult (List String)
  | [], recipients => .ok recipients
  | address :: rest, recipients => do
    validateAddress address
    collectRecipients rest (if recipients.contains address.email then recipients else recipients ++ [address.email])

/-- What is checked before a connection is opened. -/
def prepare (authenticatedUser date : String) (request : NativeSmtpSubmitRequest) :
    NetResult (BuiltMessage × List String) := do
  if request.from.email ≠ authenticatedUser then .error (.rejected "smtp_sender_mismatch")
  else do
    let built ← buildMessage date request
    if built.message.length > maxMessageBytes then .error .tooLarge
    else do
      let recipients ← collectRecipients (request.to ++ request.cc ++ request.bcc) []
      if recipients.isEmpty then .error (.rejected "smtp_recipient_required")
      else .ok (built, recipients)

def rcptAll : List String → Smtp Unit
  | [] => pure ()
  | recipient :: rest => do
    command ("RCPT TO:<" ++ recipient ++ ">") 250 false
    rcptAll rest

/-- From the greeting to the server's go-ahead for the message. -/
def converse (authenticate : Smtp Unit) (sender : String) (recipients : List String) : Smtp Unit := do
  expectCode 220 false
  command "EHLO boxplot.invalid" 250 false
  orAuth authenticate
  command ("MAIL FROM:<" ++ sender ++ ">") 250 false
  rcptAll recipients
  command "DATA" 354 false

/-- The message's bytes, the closing dot, and a flush. -/
def payloadWrites (wireMessage : List UInt8) : Smtp Unit := do
  write wireMessage (.ambiguous "smtp_data_write_unknown")
  write [13, 10, 46, 13, 10] (.ambiguous "smtp_data_write_unknown")
  flush (.ambiguous "smtp_data_write_unknown")

def writePayload (wireMessage : List UInt8) : Smtp Unit := fun s =>
  payloadWrites wireMessage { s with payloadBegun := true }

/-- Everything up to the end of the message. -/
def transmit (connect authenticate : Smtp Unit) (authenticatedUser date : String) (request : NativeSmtpSubmitRequest) :
    Smtp BuiltMessage := do
  let (built, recipients) ← ofResult (prepare authenticatedUser date request)
  connect
  converse authenticate request.from.email recipients
  writePayload (dotStuff built.message)
  pure built

/-- The server's answer to the message. Taking leave cannot fail. -/
def concludes (built : BuiltMessage) : Smtp NativeSmtpSubmitResponse := do
  expectCode 250 true
  tryCatch (command "QUIT" 221 false) fun _ => pure ()
  pure { accepted := true, receiptId := built.messageId }

/-- `submit` up to the end of the message: with a password, over a plain connection. -/
def submitPayload (authenticatedUser password date : String) (request : NativeSmtpSubmitRequest) : Smtp BuiltMessage :=
  transmit connectPlain (command (authPlainCommand authenticatedUser password) 235 false) authenticatedUser date request

def submit (authenticatedUser password date : String) (request : NativeSmtpSubmitRequest) :
    Smtp NativeSmtpSubmitResponse := do
  let built ← submitPayload authenticatedUser password date request
  concludes built

/-- `submit_gmail` up to the end of the message: with an access token, over TLS. -/
def submitGmailPayload (authenticatedUser accessToken date : String) (request : NativeSmtpSubmitRequest) :
    Smtp BuiltMessage :=
  transmit connectTls (authenticateXoauth2 (xoauth2Command authenticatedUser accessToken)) authenticatedUser date request

def submitGmail (authenticatedUser accessToken date : String) (request : NativeSmtpSubmitRequest) :
    Smtp NativeSmtpSubmitResponse := do
  let built ← submitGmailPayload authenticatedUser accessToken date request
  concludes built

end Boxplot.Net
