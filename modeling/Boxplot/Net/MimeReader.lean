import Boxplot.Lib.Lines
import Boxplot.Net.Mime
/-!
# Reading a message

How a receiver reads a message, whatever wrote it: a header block of lines up
to the first empty one, fields that may be folded, and a body, in parts between
the boundaries its header announces, in base64.
-/

namespace Boxplot.Net

open Lib

/-! ## Header fields -/

structure RawField where
  name : List UInt8
  value : List UInt8
  deriving DecidableEq

/-- ASCII letters in lower case. -/
def lowerByte (b : UInt8) : UInt8 := if 65 ≤ b ∧ b ≤ 90 then b + 32 else b

/-- Field names are compared without case. -/
def sameName (left right : List UInt8) : Bool := left.map lowerByte = right.map lowerByte

def isBlank (b : UInt8) : Bool := b = 32 || b = 9

/-- A line that continues the one before. -/
def continuesField (line : List UInt8) : Bool := line.head?.any isBlank

/-- Lines with those that continue them. -/
def unfoldLines : List (List UInt8) → List (List UInt8)
  | [] => []
  | line :: rest =>
    match rest.head?.any continuesField, unfoldLines rest with
    | true, field :: fields => (line ++ field) :: fields
    | _, fields => line :: fields

/-- The name before the first colon, and the value behind it without the blank that follows the colon. -/
def fieldOfLine (line : List UInt8) : Option RawField :=
  match line.span (· ≠ 58) with
  | (name, _ :: 32 :: value) => some ⟨name, value⟩
  | (name, _ :: value) => some ⟨name, value⟩
  | (_, []) => none

/-- The lines of the header block, and those of the body. -/
def splitEntity (lines : List (List UInt8)) : List (List UInt8) × List (List UInt8) :=
  (lines.takeWhile (· ≠ []), (lines.dropWhile (· ≠ [])).drop 1)

def readFields (lines : List (List UInt8)) : List RawField := (unfoldLines lines).filterMap fieldOfLine

def fieldValue (fields : List RawField) (name : String) : Option (List UInt8) :=
  (fields.find? (sameName ·.name (bytes name))).map (·.value)

/-! ## Bodies -/

/-- The text of base64 lines. -/
def decodeBody (lines : List (List UInt8)) : Option String :=
  (standard.decodePadded (lines.flatten.map asciiChar)).bind textOf

/-- A part's type and text. -/
structure TextOfType where
  mediaType : List UInt8
  text : String
  deriving DecidableEq

/-- The text an entity carries, in the one encoding there is. -/
def readText (fields : List RawField) (lines : List (List UInt8)) : Option TextOfType := do
  let mediaType ← fieldValue fields "Content-Type"
  let encoding ← fieldValue fields "Content-Transfer-Encoding"
  if encoding = bytes "base64" then (decodeBody lines).map fun text => ⟨mediaType, text⟩ else none

/-- The lines before the first boundary and, up to the closing one, the parts between the boundaries. A line that begins
with a boundary is one. -/
def readParts (boundary : List UInt8) : List (List UInt8) → Option (List (List UInt8) × List (List (List UInt8)))
  | [] => none
  | line :: rest =>
    if (boundary ++ [45, 45]).isPrefixOf line then some ([], [])
    else do
      let (part, parts) ← readParts boundary rest
      if boundary.isPrefixOf line then some ([], part :: parts) else some (line :: part, parts)

/-- The boundary that a type announces in quotes. -/
def boundaryOf (mediaType : List UInt8) : Option (List UInt8) :=
  let start := bytes "multipart/alternative; boundary=\""
  if start.isPrefixOf mediaType then some ([45, 45] ++ (mediaType.drop start.length).takeWhile (· ≠ 34)) else none

def readPart (part : List (List UInt8)) : Option TextOfType := readText (readFields (splitEntity part).1) (splitEntity part).2

/-- What a message says: a text, or texts of which any may be shown. -/
inductive Content
  | single (text : TextOfType)
  | alternative (texts : List TextOfType)
  deriving DecidableEq

def readContent (fields : List RawField) (lines : List (List UInt8)) : Option Content := do
  match (fieldValue fields "Content-Type").bind boundaryOf with
  | none => (readText fields lines).map .single
  | some boundary => do
    let (_, parts) ← readParts boundary lines
    (parts.mapM readPart).map .alternative

/-- A message as it is read. -/
structure ReadMessage where
  headerLines : List (List UInt8)
  fields : List RawField
  body : List (List UInt8)
  content : Option Content
  deriving DecidableEq

def readMessage (message : List UInt8) : ReadMessage :=
  let (headerLines, body) := splitEntity (splitLines message)
  let fields := readFields headerLines
  ⟨headerLines, fields, body, readContent fields body⟩

end Boxplot.Net
