import Mathlib.Data.UInt
import Boxplot.Lib.BufReader
import Boxplot.Net.Dto
import Boxplot.Net.Smtp
/-!
# IMAP commands on the wire

`command_with_outcome`, `store_flags`, `move_message` and `find_message_id` of
`src-tauri/src/net/imap.rs`, over a connection whose server may send any bytes,
in any chunks, and whose reads and writes may fail anywhere. A line's text is
its bytes, which are valid UTF-8.
-/

namespace Boxplot.Net

open Lib

/-- The client's connection. `faults` says how the coming writes go: `some n` fails after `n` bytes. -/
structure ImapWire where
  reader : BufReader
  faults : List (Option Nat)
  /-- The bytes that went out. -/
  sent : List UInt8
  nextTag : UInt32
  deriving DecidableEq, Repr

abbrev Imap (α : Type) := EStateM NativeMailErrorDto ImapWire α

structure ResponseLine where
  text : List UInt8
  literal : Option (List UInt8)
  deriving DecidableEq, Repr

def maxImapLineBytes : Nat := 64 * 1024
def maxImapLiteralBytes : Nat := 2 * 1024 * 1024
def maxImapResponseLines : Nat := 4096
def maxImapResponseTextBytes : Nat := 1024 * 1024

/-! ## Text -/

def isDigitByte (b : UInt8) : Bool := 48 ≤ b && b ≤ 57

def decimal (digits : List UInt8) : Nat := digits.foldl (fun n b => 10 * n + (b.toNat - 48)) 0

/-- `str::parse::<u32>`: digits, perhaps after a plus sign. -/
def parseU32 (text : List UInt8) : Option UInt32 :=
  let digits := match text with
    | 43 :: rest => rest
    | _ => text
  if digits.isEmpty || !digits.all isDigitByte || 2 ^ 32 ≤ decimal digits then none else some (UInt32.ofNat (decimal digits))

def stripPrefix (start text : List UInt8) : Option (List UInt8) :=
  if start.isPrefixOf text then some (text.drop start.length) else none

/-- The text behind the first occurrence of a marker. -/
def after (marker : List UInt8) (text : List UInt8) : Option (List UInt8) :=
  match stripPrefix marker text with
  | some rest => some rest
  | none =>
    match text with
    | [] => none
    | _ :: text => after marker text

/-- The text before the first such byte, or all of it. -/
def upTo (b : UInt8) (text : List UInt8) : List UInt8 := text.takeWhile (· ≠ b)

/-- What follows a white space character, if the text begins with one. -/
def dropSpace : List UInt8 → Option (List UInt8)
  | 0xC2 :: 0x85 :: rest => some rest
  | 0xC2 :: 0xA0 :: rest => some rest
  | 0xE1 :: 0x9A :: 0x80 :: rest => some rest
  | 0xE2 :: 0x80 :: c :: rest =>
    if 0x80 ≤ c ∧ c ≤ 0x8A ∨ c = 0xA8 ∨ c = 0xA9 ∨ c = 0xAF then some rest else none
  | 0xE2 :: 0x81 :: 0x9F :: rest => some rest
  | 0xE3 :: 0x80 :: 0x80 :: rest => some rest
  | b :: rest => if 9 ≤ b ∧ b ≤ 13 ∨ b = 32 then some rest else none
  | [] => none

/-- The rest of a word, and the words after it. The text has at most `fuel` bytes. -/
def wordsFrom : Nat → List UInt8 → List UInt8 → List (List UInt8)
  | 0, word, _ => if word = [] then [] else [word]
  | fuel + 1, word, text =>
    match dropSpace text, text with
    | some rest, _ => if word = [] then wordsFrom fuel [] rest else word :: wordsFrom fuel [] rest
    | none, [] => if word = [] then [] else [word]
    | none, b :: rest => wordsFrom fuel (word ++ [b]) rest

/-- `split_whitespace`. -/
def words (text : List UInt8) : List (List UInt8) := wordsFrom (text.length + 1) [] text

/-- The literal length that a line ends with: the digits between its last opening brace and its last byte. -/
def parseLiteralLength (text : List UInt8) : NetResult (Option Nat) :=
  if text.getLast? ≠ some 125 then .ok none
  else if 123 ∉ text then .ok none
  else
    let literal := (text.reverse.takeWhile (· ≠ 123)).reverse.dropLast
    if literal.isEmpty || !literal.all isDigitByte || 2 ^ 64 ≤ decimal literal then .error (.protocol "imap_literal_length_invalid")
    else if maxImapLiteralBytes < decimal literal then .error (.protocol "imap_literal_too_large")
    else .ok (some (decimal literal))

def quote (value : String) : NetResult (List UInt8) :=
  if value.toList.any (fun c => c = '\r' ∨ c = '\n' ∨ c.toNat = 0) then .error (.protocol "imap_argument_invalid")
  else .ok (34 :: (bytes value).flatMap (fun b => if b = 92 ∨ b = 34 then [92, b] else [b]) ++ [34])

/-- `format!("B{:04}", n)`. -/
def tagOf (n : UInt32) : List UInt8 :=
  let digits := toString n.toNat
  bytes ("B" ++ String.ofList (List.replicate (4 - digits.length) '0') ++ digits)

/-! ## Reading and writing -/

/-- One `write_all`, failing with `e`. A flush writes nothing. -/
def ImapWire.write (data : List UInt8) (e : NativeMailErrorDto) : Imap Unit := fun c =>
  match c.faults with
  | [] => .ok () { c with sent := c.sent ++ data }
  | none :: faults => .ok () { c with faults, sent := c.sent ++ data }
  | some n :: faults => .error e { c with faults, sent := c.sent ++ data.take n }

def writeImapCommand (tag command : List UInt8) (e : NativeMailErrorDto) : Imap Unit := do
  ImapWire.write tag e
  ImapWire.write [32] e
  ImapWire.write command e
  ImapWire.write [13, 10] e
  ImapWire.write [] e

def readFailure : ReadFailure → NativeMailErrorDto
  | .failed => .unavailable "imap_read_failed"
  | .closed => .unavailable "imap_connection_closed"
  | .tooLong => .protocol "imap_line_too_large"

/-- The line without the line feeds and carriage returns it ends with. -/
def trimLine (line : List UInt8) : List UInt8 := (line.reverse.dropWhile fun b => b = 10 || b = 13).reverse

def readBoundedTextLine : Imap (List UInt8) := fun c =>
  match c.reader.readLine maxImapLineBytes with
  | (.error e, reader) => .error (readFailure e) { c with reader }
  | (.ok line, reader) =>
    if utf8Valid (trimLine line) then .ok (trimLine line) { c with reader }
    else .error (.protocol "imap_utf8_invalid") { c with reader }

def readLiteral (n : Nat) : Imap (List UInt8) := fun c =>
  match c.reader.readExact n with
  | (.error _, reader) => .error (.unavailable "imap_literal_failed") { c with reader }
  | (.ok value, reader) => .ok value { c with reader }

/-- How much of a response was read: its lines, the bytes of their texts, and those of its literals. -/
structure Accounts where
  lines : Nat
  text : Nat
  literals : Nat
  deriving DecidableEq, Repr

def accountResponseText (a : Accounts) (text : List UInt8) : NetResult Accounts :=
  if maxImapResponseLines < a.lines + 1 then .error (.protocol "imap_response_too_large")
  else if maxImapResponseTextBytes < a.text + text.length then .error (.protocol "imap_response_too_large")
  else .ok { a with lines := a.lines + 1, text := a.text + text.length }

def accountLiteral (a : Accounts) (length : Nat) : NetResult Accounts :=
  if maxImapLiteralBytes < a.literals + length then .error (.protocol "imap_literal_too_large")
  else .ok { a with literals := a.literals + length }

def ofNetResult {α : Type} : NetResult α → Imap α
  | .ok a => pure a
  | .error e => throw e

def mutationOutcome (error : NativeMailErrorDto) (mutation : Bool) : NativeMailErrorDto :=
  if mutation then { error with retry := .reconcile, outcome := .unknown } else error

/-- Labels what goes wrong. -/
def orOutcome {α : Type} (mutation : Bool) (x : Imap α) : Imap α :=
  tryCatch x fun e => throw (mutationOutcome e mutation)

/-! ## Commands -/

/-- The literal of a line that announces one, and the line that closes it. -/
def readLiteralOf (a : Accounts) (text : List UInt8) : Imap (Option (List UInt8) × Accounts) := do
  match ← ofNetResult (parseLiteralLength text) with
  | none => pure (none, a)
  | some length =>
    let a ← ofNetResult (accountLiteral a length)
    let value ← readLiteral length
    let trailer ← readBoundedTextLine
    let a ← ofNetResult (accountResponseText a trailer)
    if trailer = [41] then pure (some value, a) else throw (.protocol "imap_literal_trailer_invalid")

/-- The first word of a tagged line. -/
def taggedWord (tag text : List UInt8) : Option (Option (List UInt8)) :=
  (stripPrefix (tag ++ [32]) text).map fun tagged => (words tagged).head?

/-- The lines of a response up to the tagged one. Each counts, so the bound on lines bounds the loop. -/
def responseLines (tag : List UInt8) (mutation : Bool) : Nat → Accounts → List ResponseLine → Imap (List ResponseLine)
  | 0, _, _ => throw (mutationOutcome (.protocol "imap_response_too_large") mutation)
  | fuel + 1, a, lines => do
    let text ← orOutcome mutation readBoundedTextLine
    let a ← orOutcome mutation (ofNetResult (accountResponseText a text))
    let (literal, a) ← orOutcome mutation (readLiteralOf a text)
    match taggedWord tag text with
    | none => responseLines tag mutation fuel a (lines ++ [⟨text, literal⟩])
    | some word =>
      if word = some (bytes "OK") then pure lines
      else if word = some (bytes "NO") ∨ word = some (bytes "BAD") then throw (.rejected "imap_command_rejected")
      else throw (mutationOutcome (.protocol "imap_tagged_response_invalid") mutation)

/-- The tag of the next command, which is used up. -/
def takeTag : Imap (List UInt8) := fun c =>
  .ok (tagOf c.nextTag) { c with nextTag := if c.nextTag = 2 ^ 32 - 1 then c.nextTag else c.nextTag + 1 }

def commandWithOutcome (command : List UInt8) (mutation : Bool) : Imap (List ResponseLine) := do
  let tag ← takeTag
  orOutcome mutation (writeImapCommand tag command (.unavailable "imap_write_failed"))
  responseLines tag mutation (maxImapResponseLines + 1) ⟨0, 0, 0⟩ []

def imapCommand (command : List UInt8) : Imap (List ResponseLine) := commandWithOutcome command false

def mutationCommand (command : List UInt8) : Imap (List ResponseLine) := commandWithOutcome command true

/-- `bracket_number(text, "UIDVALIDITY")`. -/
def uidValidityOf (text : List UInt8) : Option UInt32 := (after (bytes "[UIDVALIDITY ") text).bind fun rest => parseU32 (upTo 93 rest)

def selectCommand (quoted : List UInt8) : List UInt8 := bytes "SELECT " ++ quoted

/-- The uid validity of the mailbox. -/
def imapSelect (mailbox : String) : Imap UInt32 := do
  let quoted ← ofNetResult (quote mailbox)
  let lines ← imapCommand (selectCommand quoted)
  match lines.findSome? (uidValidityOf ·.text) with
  | some uidValidity => pure uidValidity
  | none => throw (.protocol "imap_uidvalidity_missing")

/-- Selects the mailbox, which must still be the one that is meant. -/
def selectChecked (mailbox : String) (expectedUidValidity : UInt32) : Imap Unit := do
  let uidValidity ← imapSelect mailbox
  if uidValidity ≠ expectedUidValidity then throw (.stateInvalid "uidvalidity_changed") else pure ()

/-! ## Mutations -/

def storeCommand (uid : UInt32) (operation : Bool × String) : List UInt8 :=
  bytes ("UID STORE " ++ toString uid.toNat ++ " " ++ (if operation.1 then "+" else "-") ++ "FLAGS.SILENT (" ++ operation.2 ++ ")")

/-- A failure after an operation that was applied. -/
def afterApplied (applied : Bool) (error : NativeMailErrorDto) : NativeMailErrorDto :=
  if applied then { error with retry := .reconcile, outcome := .unknown } else error

def storeOperations (uid : UInt32) : Bool → List (Bool × String) → Imap Unit
  | _, [] => pure ()
  | applied, operation :: rest => do
    let _ ← (tryCatch (mutationCommand (storeCommand uid operation)) fun e => throw (afterApplied applied e) : Imap _)
    storeOperations uid true rest

def storeFlags (mailbox : String) (expectedUidValidity uid : UInt32) (operations : List (Bool × String)) : Imap Unit := do
  selectChecked mailbox expectedUidValidity
  storeOperations uid false operations

/-- The uid at the end of the first line with a `COPYUID` code. -/
def copiedUid (lines : List ResponseLine) : Option UInt32 := do
  let line ← lines.find? fun line => (after (bytes "[COPYUID ") line.text).isSome
  let word ← (words (upTo 93 line.text)).getLast?
  parseU32 word

def moveCommand (uid : UInt32) (quoted : List UInt8) : List UInt8 := bytes ("UID MOVE " ++ toString uid.toNat ++ " ") ++ quoted

def moveMessage (mailbox : String) (expectedUidValidity uid : UInt32) (destination : String) : Imap NativeMoveResponse := do
  selectChecked mailbox expectedUidValidity
  let quoted ← ofNetResult (quote destination)
  let lines ← mutationCommand (moveCommand uid quoted)
  match copiedUid lines with
  | some destinationUid =>
    pure { sourceMailbox := mailbox, sourceUidValidity := expectedUidValidity, sourceUid := uid,
           destinationMailbox := destination, destinationUid }
  | none => throw (mutationOutcome (.protocol "imap_copyuid_missing") true)

/-! ## Looking for a message id -/

/-- The commands of an IMAP connection in state `S`. `select` answers the mailbox's uid validity. -/
structure ImapConnection (S : Type) where
  select : String → EStateM NativeMailErrorDto S UInt32
  searchMessageIdCandidates : String → EStateM NativeMailErrorDto S (List UInt32)
  fetchExactMessageId : UInt32 → EStateM NativeMailErrorDto S (Option String)

namespace ImapConnection

variable {S : Type}

def maxMessageIdCandidates : Nat := 256

/-- The only candidate with the exact header, `none` of it if there is no such one, nothing if there are two. -/
def exactMatch (c : ImapConnection S) (messageId : String) :
    List UInt32 → Option UInt32 → EStateM NativeMailErrorDto S (Option (Option UInt32))
  | [], found => pure (some found)
  | uid :: rest, found => do
    let header ← c.fetchExactMessageId uid
    if header ≠ some messageId then c.exactMatch messageId rest found
    else if found.isSome then pure none
    else c.exactMatch messageId rest (some uid)

def findMessageId (c : ImapConnection S) (mailbox messageId : String) :
    EStateM NativeMailErrorDto S NativeFindMessageIdResponse := do
  let uidValidity ← c.select mailbox
  let candidates ← c.searchMessageIdCandidates messageId
  if maxMessageIdCandidates < candidates.length then pure .ambiguous
  else
    match ← c.exactMatch messageId candidates none with
    | none => pure .ambiguous
    | some none => pure .notFound
    | some (some uid) => pure (.found ⟨mailbox, uidValidity, uid⟩)

end ImapConnection

end Boxplot.Net
