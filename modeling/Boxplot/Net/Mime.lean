import Boxplot.Net.ImapSnapshot
import Boxplot.Net.Message
/-!
# Received messages

`src-tauri/src/net/mime.rs` over a message that `mail_parser` has parsed. The
parser is not in the repository: `MailParser` is what it computes, and
`MailParser.Parses` and `MailParser.Decodes` what is relied on of it.
-/

namespace Boxplot.Net

open Lib

/-! ## What the parser gives -/

structure ParsedAddress where
  name : Option String
  address : Option String
  deriving DecidableEq

structure ContentType where
  ctype : String
  subtype : Option String
  deriving DecidableEq

structure TextPart where
  isTextHtml : Bool
  textContents : Option String
  deriving DecidableEq

/-- `mail_parser::Message`, as far as it is looked at. The date is its RFC 3339 text. -/
structure MailMessage where
  sender : Option (List ParsedAddress)
  «from» : Option (List ParsedAddress)
  replyTo : Option (List ParsedAddress)
  «to» : Option (List ParsedAddress)
  cc : Option (List ParsedAddress)
  bcc : Option (List ParsedAddress)
  subject : Option String
  date : Option String
  contentType : Option ContentType
  /-- The text of `parts.first()`. -/
  firstPart : Option String
  textPart : Option TextPart
  htmlPart : Option TextPart
  attachmentCount : Nat

/-! ## What is taken from it -/

def parsedAddresses (value : Option (List ParsedAddress)) : Option (List NativeAddressDto) :=
  value.map (·.filterMap fun item => item.address.map (⟨item.name, ·⟩))

/-- Unicode `White_Space`. -/
def isWhitespace (c : Char) : Bool :=
  (9 ≤ c.toNat && c.toNat ≤ 13) || (0x2000 ≤ c.toNat && c.toNat ≤ 0x200a) ||
    [0x20, 0x85, 0xa0, 0x1680, 0x2028, 0x2029, 0x202f, 0x205f, 0x3000].contains c.toNat

def preview (text : Option String) : String :=
  let words := ((text.getD "").toList.splitOnP isWhitespace).filter (· ≠ [])
  String.ofList ((List.intercalate [' '] words).take 200)

def eqIgnoreAsciiCase (left right : String) : Bool := left.toList.map Char.toLower = right.toList.map Char.toLower

namespace MailMessage

def plainText (m : MailMessage) : Option String := (m.textPart.filter (!·.isTextHtml)).bind (·.textContents)
def htmlText (m : MailMessage) : Option String := (m.htmlPart.filter (·.isTextHtml)).bind (·.textContents)

/-- What `metadata` shows of it. -/
def parsed (m : MailMessage) : ParsedMessage where
  sender := parsedAddresses m.sender
  «from» := parsedAddresses m.from
  replyTo := parsedAddresses m.replyTo
  «to» := parsedAddresses m.to
  cc := parsedAddresses m.cc
  bcc := parsedAddresses m.bcc
  subject := m.subject
  sentAt := m.date
  preview := preview m.plainText
  hasAttachment := 0 < m.attachmentCount

def isBoxplotE2ee (m : MailMessage) : Bool :=
  m.contentType.any fun contentType => eqIgnoreAsciiCase contentType.ctype "application" &&
    contentType.subtype.any (eqIgnoreAsciiCase · "vnd.boxplot.e2ee+json")

def body (m : MailMessage) : NativeBodyDto :=
  if m.isBoxplotE2ee then .boxplotE2ee (m.firstPart.getD "") else .plain m.plainText m.htmlText

end MailMessage

/-! ## Messages of header fields and a body -/

structure HeaderField where
  name : String
  value : String

def HeaderField.line (f : HeaderField) : String := f.name ++ ": " ++ f.value

def render (fields : List HeaderField) (body : String) : List UInt8 :=
  bytes (String.intercalate "\r\n" (fields.map HeaderField.line) ++ "\r\n\r\n" ++ body)

def valueOf (fields : List HeaderField) (name : String) : Option String := (fields.find? (·.name = name)).map (·.value)

/-- No line break, so nothing to unfold. -/
def Unbroken (value : String) : Prop := '\r' ∉ value.toList ∧ '\n' ∉ value.toList

instance (value : String) : Decidable (Unbroken value) := inferInstanceAs (Decidable (_ ∧ _))

/-! ## The parser -/

structure MailParser where
  parse : List UInt8 → Option MailMessage
  /-- What it trims off the value of a header. -/
  isSpace : Char → Bool
  /-- There is an encoded-word that it decodes. -/
  hasEncodedWord : String → Bool
  decodeWords : String → String
  /-- Whether an empty header is reported as empty, or as absent. -/
  reportsEmpty : Bool
  addresses : String → Option (List ParsedAddress)

namespace MailParser

variable (p : MailParser)

def trim (value : String) : String :=
  String.ofList ((value.toList.dropWhile p.isSpace).reverse.dropWhile p.isSpace).reverse

/-- A text header. -/
def text (value : String) : Option String :=
  if p.trim value = "" then (if p.reportsEmpty then some "" else none) else some (p.decodeWords (p.trim value))

/-- What it makes of the header fields of a base64 message: each is read by itself. -/
structure Reads (fields : List HeaderField) (content : String) (m : MailMessage) : Prop where
  «from» : m.from = (valueOf fields "From").bind p.addresses
  «to» : m.to = (valueOf fields "To").bind p.addresses
  cc : m.cc = (valueOf fields "Cc").bind p.addresses
  bcc : m.bcc = (valueOf fields "Bcc").bind p.addresses
  subject : m.subject = (valueOf fields "Subject").bind p.text
  contentType : valueOf fields "Content-Type" = some "application/vnd.boxplot.e2ee+json" →
    m.contentType = some ⟨"application", some "vnd.boxplot.e2ee+json"⟩
  firstPart : valueOf fields "Content-Transfer-Encoding" = some "base64" → m.firstPart = some content

/-- It parses a message without folded fields. -/
def Parses (fields : List HeaderField) (content : String) : Prop :=
  (∀ f ∈ fields, Unbroken f.value) →
    ∃ m, p.parse (render fields (encodeBody (bytes content))) = some m ∧ p.Reads fields content m

/-- Encoded-words give way to their shorter texts, and the one that `encode_header` writes to the value. -/
structure Decodes (value : String) : Prop where
  plain : p.hasEncodedWord (p.trim value) = false → p.decodeWords (p.trim value) = p.trim value
  shorter : p.hasEncodedWord (p.trim value) = true →
    (p.decodeWords (p.trim value)).toList.length < (p.trim value).toList.length
  encoded : isAscii value = false → p.text (encodeHeader value) = some value

end MailParser

end Boxplot.Net
